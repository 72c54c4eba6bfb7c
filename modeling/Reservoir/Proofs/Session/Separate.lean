import Reservoir.Proofs.Session.Change

/-!
# States share no arrays

Every array of a state is on the heap, and no two states or fields have the same one: new
states and replaced fields get new arrays, and nothing else gives a field another array. A
write through one field is therefore seen through no other field of any state.
-/

namespace Reservoir

namespace Heap

/-- Six new arrays are the next six of the heap. -/
theorem get_allocAll (h : Heap) (a : Arrays (Block Float)) (f : Field) :
    (h.allocAll a).2.get f = h.size + Field.all.idxOf f := by
  cases f <;> simp only [allocAll, Arrays.get, alloc, size, Array.size_push] <;> rfl

theorem get_allocAll_lt (h : Heap) (a : Arrays (Block Float)) (f : Field) :
    (h.allocAll a).2.get f < (h.allocAll a).1.size := by
  have place : Field.all.idxOf f < 6 := by cases f <;> decide
  rw [get_allocAll, size_allocAll]
  exact Nat.add_lt_add_left place h.size

theorem get_allocAll_inj {h : Heap} {a : Arrays (Block Float)} {f g : Field}
    (same : (h.allocAll a).2.get f = (h.allocAll a).2.get g) : f = g := by
  rw [get_allocAll, get_allocAll, Nat.add_left_cancel_iff] at same
  exact (List.idxOf_inj f.mem_all).mp same

variable {h : Heap} {handles : Arrays Handle} {values : Arrays (Block Float)}

@[simp] theorem size_writeFields (h : Heap) (fields : List Field) (handles : Arrays Handle)
    (values : Arrays (Block Float)) : (h.writeFields fields handles values).size = h.size := by
  induction fields generalizing h with
  | nil => rfl
  | cons f fs ih => exact (ih _).trans (size_write h _ _)

theorem read_writeFields_of_forall_ne {fields : List Field} {a : Handle}
    (other : ∀ f ∈ fields, a ≠ handles.get f) :
    (h.writeFields fields handles values).read a = h.read a := by
  induction fields generalizing h with
  | nil => rfl
  | cons f fs ih =>
      exact (ih fun g hg => other g (List.mem_cons_of_mem f hg)).trans
        (read_write_of_ne _ (other f List.mem_cons_self))

theorem read_writeFields_of_mem {fields : List Field} {f : Field}
    (inside : ∀ f, handles.get f < h.size) (apart : ∀ f g, handles.get f = handles.get g → f = g)
    (member : f ∈ fields) :
    (h.writeFields fields handles values).read (handles.get f) = values.get f := by
  induction fields generalizing h with
  | nil => cases member
  | cons g fs ih =>
      have inside' : ∀ f, handles.get f < (h.write (handles.get g) (values.get g)).size := by
        intro f
        rw [size_write]
        exact inside f
      by_cases later : f ∈ fs
      · exact ih inside' later
      · obtain rfl := (List.mem_cons.mp member).resolve_right later
        have others : ∀ g ∈ fs, handles.get f ≠ handles.get g :=
          fun g hg same => later (apart f g same ▸ hg)
        exact (read_writeFields_of_forall_ne others).trans (read_write_self _ (inside f))

end Heap

namespace Session

/-- Arrays of states are on the heap and belong to one field of one state. -/
structure Separate (s : Session) : Prop where
  allocated : ∀ name ref, s.states.find? name = some ref →
    ∀ f, ref.toArrays.get f < s.heap.size
  apart : ∀ name ref other ref', s.states.find? name = some ref →
    s.states.find? other = some ref' → ∀ f g, ref.toArrays.get f = ref'.toArrays.get g →
      name = other ∧ f = g

variable {s t : Session}

/-- Steps that make no arrays and bind no states. -/
theorem Separate.of_states_eq (h : s.Separate) (states : t.states = s.states)
    (size : t.heap.size = s.heap.size) : t.Separate := by
  refine ⟨?_, ?_⟩
  · rw [states, size]
    exact h.allocated
  · rw [states]
    exact h.apart

/-- A state whose arrays are its own, each of them old and of the same name and field, or new. -/
theorem Separate.insert {name : String} {ref : StateRef} (h : s.Separate)
    (states : t.states = s.states.insert name ref) (size : s.heap.size ≤ t.heap.size)
    (allocated : ∀ f, ref.toArrays.get f < t.heap.size)
    (own : ∀ f g, ref.toArrays.get f = ref.toArrays.get g → f = g)
    (fresh : ∀ other ref', other ≠ name → s.states.find? other = some ref' →
      ∀ f g, ref.toArrays.get f ≠ ref'.toArrays.get g) : t.Separate := by
  refine ⟨?_, ?_⟩
  · intro other found bound f
    rw [states, Registry.find?_insert] at bound
    split at bound
    · cases bound
      exact allocated f
    · exact Nat.lt_of_lt_of_le (h.allocated other found bound f) size
  · intro one found two found' bound bound' f g same
    rw [states, Registry.find?_insert] at bound bound'
    split at bound
    · next first =>
      cases bound
      split at bound'
      · next second =>
        cases bound'
        exact ⟨first.symm.trans second, own f g same⟩
      · next second => exact absurd same (fresh two found' (Ne.symm second) bound' f g)
    · next first =>
      split at bound'
      · next second =>
        cases bound'
        exact absurd same.symm (fresh one found (Ne.symm first) bound g f)
      · exact h.apart one found two found' bound bound' f g same

/-- A new state has new arrays. -/
theorem Separate.bindState (h : s.Separate) (name : String) (state : WellState) :
    (s.bindState name state).Separate := by
  refine h.insert rfl ?_ ?_ ?_ ?_
  · change s.heap.size ≤ (s.heap.allocAll state.toArrays).1.size
    rw [Heap.size_allocAll]
    exact Nat.le_add_right _ _
  · exact Heap.get_allocAll_lt s.heap state.toArrays
  · exact fun f g same => Heap.get_allocAll_inj same
  · intro other ref _ bound f g same
    have new := Heap.size_le_get_allocAll s.heap state.toArrays f
    have old := h.allocated other ref bound g
    exact absurd same.symm (Nat.ne_of_lt (Nat.lt_of_lt_of_le old new))

/-- A replaced field has a new array. -/
theorem Separate.replace {name : String} {ref : StateRef} (h : s.Separate)
    (bound : s.states.find? name = some ref) (field : Field) (b : Block Float)
    (states : t.states = s.states.insert name
      { ref with toArrays := ref.toArrays.set field (s.heap.alloc b).2 })
    (heap : t.heap = (s.heap.alloc b).1) : t.Separate := by
  have size : t.heap.size = s.heap.size + 1 := by rw [heap, Heap.size_alloc]
  have new : (ref.toArrays.set field (s.heap.alloc b).2).get field = s.heap.size :=
    Arrays.get_set_self _ _ _
  have old : ∀ f ≠ field, (ref.toArrays.set field (s.heap.alloc b).2).get f = ref.toArrays.get f :=
    fun f ne => Arrays.get_set_of_ne _ _ ne
  have allocated := h.allocated name ref bound
  refine h.insert states (by omega) ?_ ?_ ?_
  · intro f
    change (ref.toArrays.set field (s.heap.alloc b).2).get f < _
    by_cases same : f = field
    · rw [same, new, size]
      exact Nat.lt_succ_self _
    · rw [old f same, size]
      exact Nat.lt_succ_of_lt (allocated f)
  · intro f g same
    change (ref.toArrays.set field (s.heap.alloc b).2).get f =
      (ref.toArrays.set field (s.heap.alloc b).2).get g at same
    by_cases hf : f = field <;> by_cases hg : g = field
    · rw [hf, hg]
    · rw [hf, new, old g hg] at same
      exact absurd same.symm (Nat.ne_of_lt (allocated g))
    · rw [hg, new, old f hf] at same
      exact absurd same (Nat.ne_of_lt (allocated f))
    · rw [old f hf, old g hg] at same
      exact (h.apart _ _ _ _ bound bound f g same).2
  · intro other ref' ne bound' f g same
    change (ref.toArrays.set field (s.heap.alloc b).2).get f = _ at same
    by_cases hf : f = field
    · rw [hf, new] at same
      exact Nat.ne_of_lt (h.allocated other ref' bound' g) same.symm
    · rw [old f hf] at same
      exact ne (h.apart _ _ _ _ bound bound' f g same).1.symm

theorem Separate.change {command : Command} (h : s.Separate) (change : s.Change command t) :
    t.Separate := by
  cases change with
  | seed | reseed | makeState => exact h.bindState _ _
  | replace bound read => exact h.replace bound _ _ rfl rfl
  | makeWells | addWell | control | setRole | setPhases | hold => exact h.of_states_eq rfl rfl
  | poke | pokeRate => exact h.of_states_eq rfl (Heap.size_write _ _ _)
  | unpack | unpackFrom => exact h.of_states_eq rfl (Heap.size_writeFields _ _ _ _)
  | ask => exact h

theorem Separate.run (h : s.Separate) (commands : List Command) : (s.run commands).Separate := by
  have allowed : ∀ c ∈ commands, True := fun _ _ => trivial
  exact run_induction (fun _ h change => h.change change) allowed h

theorem separate_run (commands : List Command) : (({} : Session).run commands).Separate := by
  have initial : ({} : Session).Separate := ⟨nofun, nofun⟩
  exact initial.run commands

end Session

end Reservoir
