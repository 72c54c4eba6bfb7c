import Reservoir.State.Initial

/-!
# Arrays by handle

The arrays of states are shared: who holds the handle of an array sees what is written into
it later. A heap numbers arrays in the order in which they were made and never forgets one;
a new array has a new handle.
-/

namespace Reservoir

/-- The number of an array of a heap. -/
abbrev Handle := Nat

/-- Arrays by number. -/
structure Heap where
  contents : Array (Block Float) := #[]

namespace Heap

def size (h : Heap) : Nat := h.contents.size

/-- What an array holds; an array that was never made holds nothing. -/
def read (h : Heap) (a : Handle) : Block Float := h.contents[a]?.getD (.flat [])

/-- The heap with one array holding other values. -/
def write (h : Heap) (a : Handle) (x : Block Float) : Heap :=
  ⟨h.contents.setIfInBounds a x⟩

/-- A new array. -/
def alloc (h : Heap) (x : Block Float) : Heap × Handle :=
  (⟨h.contents.push x⟩, h.size)

/-- A new array for each field of a state. -/
def allocAll (h : Heap) (a : Arrays (Block Float)) : Heap × Arrays Handle :=
  let (h, bhp) := h.alloc a.bhp
  let (h, thp) := h.alloc a.thp
  let (h, temperature) := h.alloc a.temperature
  let (h, wellRates) := h.alloc a.wellRates
  let (h, perfRates) := h.alloc a.perfRates
  let (h, perfPress) := h.alloc a.perfPress
  (h, { bhp, thp, temperature, wellRates, perfRates, perfPress })

/-- Some fields of a state written through their handles. -/
def writeFields (h : Heap) (fields : List Field) (handles : Arrays Handle)
    (values : Arrays (Block Float)) : Heap :=
  fields.foldl (fun h f => h.write (handles.get f) (values.get f)) h

@[simp] theorem size_write (h : Heap) (a : Handle) (x : Block Float) :
    (h.write a x).size = h.size := by
  simp [size, write]

@[simp] theorem size_alloc (h : Heap) (x : Block Float) :
    (h.alloc x).1.size = h.size + 1 := by
  simp [size, alloc]

@[simp] theorem read_alloc_new (h : Heap) (x : Block Float) :
    (h.alloc x).1.read (h.alloc x).2 = x := by
  simp [read, alloc, size]

theorem read_alloc_of_lt {h : Heap} {a : Handle} (x : Block Float) (ha : a < h.size) :
    (h.alloc x).1.read a = h.read a := by
  have hne : a ≠ h.contents.size := Nat.ne_of_lt ha
  simp [read, alloc, Array.getElem?_push, hne]

@[simp] theorem size_allocAll (h : Heap) (a : Arrays (Block Float)) :
    (h.allocAll a).1.size = h.size + 6 := by
  simp [allocAll]

theorem lt_size_alloc {h : Heap} {b : Handle} (x : Block Float) (hb : b < h.size) :
    b < (h.alloc x).1.size := by
  rw [size_alloc]
  exact Nat.lt_succ_of_lt hb

theorem read_allocAll_of_lt {h : Heap} {b : Handle} (a : Arrays (Block Float))
    (hb : b < h.size) : (h.allocAll a).1.read b = h.read b := by
  have bhp := lt_size_alloc a.bhp hb
  have thp := lt_size_alloc a.thp bhp
  have temperature := lt_size_alloc a.temperature thp
  have wellRates := lt_size_alloc a.wellRates temperature
  have perfRates := lt_size_alloc a.perfRates wellRates
  simp only [allocAll]
  rw [read_alloc_of_lt _ perfRates, read_alloc_of_lt _ wellRates, read_alloc_of_lt _ temperature,
    read_alloc_of_lt _ thp, read_alloc_of_lt _ bhp, read_alloc_of_lt _ hb]

theorem size_le_get_allocAll (h : Heap) (a : Arrays (Block Float)) (f : Field) :
    h.size ≤ (h.allocAll a).2.get f := by
  cases f <;> simp +arith [allocAll, Arrays.get, alloc, size]

/-- A new state reads what it was made of. -/
theorem read_get_allocAll (h : Heap) (a : Arrays (Block Float)) (f : Field) :
    (h.allocAll a).1.read ((h.allocAll a).2.get f) = a.get f := by
  cases f <;> simp +arith [allocAll, Arrays.get, alloc, read, size, Array.getElem_push]

theorem read_write_self {h : Heap} {a : Handle} (x : Block Float) (ha : a < h.size) :
    (h.write a x).read a = x := by
  have ha' : a < h.contents.size := ha
  simp [read, write, ha']

theorem read_write_of_ne {h : Heap} {a b : Handle} (x : Block Float) (hab : b ≠ a) :
    (h.write a x).read b = h.read b := by
  simp [read, write, Ne.symm hab]

end Heap

/-- A state whose arrays are on a heap. -/
structure StateRef extends Arrays Handle where
  settings : Settings
  phases : Int

namespace StateRef

/-- The state as it is now. -/
def view (r : StateRef) (h : Heap) : WellState :=
  { r.toArrays.map h.read with settings := r.settings, phases := r.phases }

/-- A state put on a heap, all its arrays new. -/
def create (h : Heap) (s : WellState) : Heap × StateRef :=
  let (h, handles) := h.allocAll s.toArrays
  (h, { handles with settings := s.settings, phases := s.phases })

/-- A state put on a heap is seen there as it was. -/
theorem view_create (h : Heap) (s : WellState) : (create h s).2.view (create h s).1 = s := by
  have arrays : (h.allocAll s.toArrays).2.map (h.allocAll s.toArrays).1.read = s.toArrays :=
    Arrays.ext_get fun f => by rw [Arrays.get_map, Heap.read_get_allocAll]
  show WellState.mk ((h.allocAll s.toArrays).2.map (h.allocAll s.toArrays).1.read) _ _ = s
  rw [arrays]
  rfl

end StateRef

/-- A state on a heap, together with the heap that its arrays are on. -/
structure HeldState where
  heap : Heap
  ref : StateRef

namespace HeldState

/-- The state as it is now. -/
def view (s : HeldState) : WellState := s.ref.view s.heap

/-- A field that is set is given a new array. -/
instance : StateObject HeldState where
  settings s := s.ref.settings
  setPhases phases s := { s with ref := { s.ref with phases } }
  setArray f b s :=
    let (heap, a) := s.heap.alloc b
    { heap, ref := { s.ref with toArrays := s.ref.toArrays.set f a } }

end HeldState

end Reservoir
