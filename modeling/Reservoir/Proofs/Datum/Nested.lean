import Reservoir.Proofs.Datum.Plain

/-!
# Values nested row by row

`Datum.arrange` lays values out in nested lists of a given shape, row by row, and `Datum.nest`
does so with doubles. Up to the admitted depth the values are read in the order in which they
were laid out; a nesting that is deeper is refused.
-/

namespace Reservoir

theorem length_rowsOf {α : Type} (rows width : Nat) (xs : List α) :
    (rowsOf rows width xs).length = rows := by
  simp [rowsOf]

theorem length_of_mem_rowsOf {α : Type} {rows width : Nat} {xs row : List α}
    (length : xs.length = rows * width) (h : row ∈ rowsOf rows width xs) : row.length = width := by
  obtain ⟨r, hr, rfl⟩ := List.mem_map.mp h
  have inside : (r + 1) * width ≤ rows * width := Nat.mul_le_mul_right _ (List.mem_range.mp hr)
  rw [Nat.succ_mul] at inside
  rw [List.length_take, List.length_drop]
  omega

theorem getElem?_rowsOf {α : Type} {rows width r c : Nat} (hr : r < rows) (hc : c < width)
    (xs : List α) : ((rowsOf rows width xs)[r]?.bind fun row => row[c]?) = xs[r * width + c]? := by
  rw [rowsOf, List.getElem?_map, List.getElem?_range hr, Option.map_some, Option.bind_some,
    List.getElem?_take_of_lt hc, List.getElem?_drop]

/-- The rows of a table are its entries. -/
theorem flatten_rowsOf {α : Type} {rows width : Nat} {xs : List α}
    (length : xs.length = rows * width) : (rowsOf rows width xs).flatten = xs := by
  have fronts : ∀ n, ((List.range n).map fun r => (xs.drop (r * width)).take width).flatten =
      xs.take (n * width) := by
    intro n
    induction n with
    | zero => simp
    | succ n ih => simp [List.range_succ, ih, Nat.succ_mul, List.take_add]
  rw [rowsOf, fronts, ← length, List.take_length]

/-- Only whole rows are looked at, entry by entry. -/
theorem rowsOf_map {α β : Type} (f : α → β) (rows width : Nat) (xs : List α) :
    rowsOf rows width (xs.map f) = (rowsOf rows width xs).map (·.map f) := by
  simp [rowsOf]

theorem mem_of_mem_rowsOf {α : Type} {rows width : Nat} {xs row : List α}
    (h : row ∈ rowsOf rows width xs) {x : α} (hx : x ∈ row) : x ∈ xs := by
  obtain ⟨r, _, rfl⟩ := List.mem_map.mp h
  exact List.mem_of_mem_drop (List.mem_of_mem_take hx)

namespace Datum

/-- Values nested as a shape says, row by row. -/
def arrange : List Nat → List Datum → Datum
  | [], ds => ds.headD (.float 0.0)
  | n :: shape, ds => .list ((rowsOf n (volume shape) ds).map (arrange shape))

/-- Entries nested as a shape says, row by row. -/
def nest : List Nat → List Float → Datum
  | [], xs => .float (xs.headD 0.0)
  | n :: shape, xs => .list ((rowsOf n (volume shape) xs).map (nest shape))

theorem nest_eq_arrange (shape : List Nat) (xs : List Float) :
    nest shape xs = arrange shape (xs.map .float) := by
  induction shape generalizing xs with
  | nil => cases xs <;> rfl
  | cons n shape ih =>
      rw [nest, arrange, rowsOf_map, List.map_map]
      exact congrArg Datum.list (List.map_congr_left fun row _ => ih row)

/-- The shape that is seen in a nesting: what would stand in an empty list is not. -/
def seenShape : List Nat → List Nat
  | [] => []
  | 0 :: _ => [0]
  | (n + 1) :: shape => (n + 1) :: seenShape shape

theorem length_seenShape_le (shape : List Nat) : (seenShape shape).length ≤ shape.length := by
  induction shape with
  | nil => exact Nat.le_refl 0
  | cons n shape ih =>
      cases n with
      | zero => exact Nat.succ_le_succ (Nat.zero_le _)
      | succ n => exact Nat.succ_le_succ ih

section Arrange

variable {shape : List Nat} {ds : List Datum}

theorem shape_arrange (shape : List Nat) (atoms : ∀ d ∈ ds, d.IsAtom) :
    (arrange shape ds).shape = .ok (seenShape shape) := by
  induction shape generalizing ds with
  | nil =>
      cases ds with
      | nil => rfl
      | cons d ds => exact (atoms d List.mem_cons_self).shape_eq
  | cons n shape ih =>
      cases n with
      | zero => rfl
      | succ n =>
          have rows : ∀ d ∈ (rowsOf (n + 1) (volume shape) ds).map (arrange shape),
              d.shape = .ok (seenShape shape) := by
            intro d hd
            obtain ⟨row, member, rfl⟩ := List.mem_map.mp hd
            exact ih fun e he => atoms e (mem_of_mem_rowsOf member he)
          have length := length_rowsOf (n + 1) (volume shape) ds
          obtain ⟨row, rest, split⟩ := List.exists_cons_of_length_eq_add_one length
          rw [split] at length rows
          rw [arrange, split, List.map_cons, shape_list (by simpa using rows), seenShape]
          simpa using length

theorem leaves_arrange (length : ds.length = volume shape) (atoms : ∀ d ∈ ds, d.IsAtom) :
    (arrange shape ds).leaves = ds := by
  induction shape generalizing ds with
  | nil =>
      obtain ⟨d, rfl⟩ := List.length_eq_one_iff.mp length
      exact (atoms d List.mem_cons_self).leaves_eq
  | cons n shape ih =>
      have length : ds.length = n * volume shape := length
      have rows : ∀ row ∈ rowsOf n (volume shape) ds, (arrange shape row).leaves = row :=
        fun row member => ih (length_of_mem_rowsOf length member)
          fun e he => atoms e (mem_of_mem_rowsOf member he)
      rw [arrange, leaves, leavesAll_eq_flatMap, List.flatMap_map, List.flatMap_congr rows,
        List.flatMap_id', flatten_rowsOf length]

/-- What was nested row by row is a block of the shape that is seen in it. -/
theorem block_arrange (length : ds.length = volume shape)
    (depth : (seenShape shape).length ≤ depthLimit) (atoms : ∀ d ∈ ds, d.IsAtom) :
    (arrange shape ds).block = (ds.mapM entry).map (.ofShape (seenShape shape)) := by
  rw [block, blockShape_of_shape_eq (shape_arrange shape atoms) depth, leaves_arrange length atoms]
  cases ds.mapM entry <;> rfl

/-- A nesting that is too deep is no block. -/
theorem block_arrange_of_deep (deep : depthLimit < (seenShape shape).length)
    (atoms : ∀ d ∈ ds, d.IsAtom) : (arrange shape ds).block = .error .irregular := by
  rw [block, blockShape, shape_arrange shape atoms]
  simp only [bind, Except.bind, if_neg (Nat.not_le.mpr deep)]
  rfl

/-- What was nested row by row is read in that order, up to the admitted depth. -/
theorem floats_arrange (length : ds.length = volume shape) (depth : shape.length ≤ depthLimit)
    (atoms : ∀ d ∈ ds, d.IsAtom) : (arrange shape ds).floats = ds.mapM entry := by
  have seen := Nat.le_trans (length_seenShape_le shape) depth
  rw [floats, block_arrange length seen atoms]
  cases ds.mapM entry with
  | error e => rfl
  | ok xs => exact congrArg Except.ok (Block.entries_ofShape _ xs)

/-- A nesting that is too deep is refused. -/
theorem floats_arrange_of_deep (deep : depthLimit < (seenShape shape).length)
    (atoms : ∀ d ∈ ds, d.IsAtom) : (arrange shape ds).floats = .error .irregular := by
  rw [floats, block_arrange_of_deep deep atoms]
  rfl

end Arrange

theorem block_nest {shape : List Nat} {xs : List Float} (length : xs.length = volume shape)
    (depth : (seenShape shape).length ≤ depthLimit) :
    (nest shape xs).block = .ok (.ofShape (seenShape shape) xs) := by
  rw [nest_eq_arrange, block_arrange (by rwa [List.length_map]) depth isAtom_of_mem_floats,
    mapM_entry]
  rfl

theorem block_nest_of_deep {shape : List Nat} (deep : depthLimit < (seenShape shape).length)
    (xs : List Float) : (nest shape xs).block = .error .irregular := by
  rw [nest_eq_arrange]
  exact block_arrange_of_deep deep isAtom_of_mem_floats

/-- Only an empty list hides a part of the shape. -/
theorem seenShape_of_volume_ne_zero {shape : List Nat} (h : volume shape ≠ 0) :
    seenShape shape = shape := by
  induction shape with
  | nil => rfl
  | cons n shape ih =>
      obtain ⟨rows, entries⟩ := Nat.mul_ne_zero_iff.mp (show n * volume shape ≠ 0 from h)
      cases n with
      | zero => exact absurd rfl rows
      | succ n => rw [seenShape, ih entries]

/-- What was nested row by row is read back, up to the admitted depth. -/
theorem floats_nest {shape : List Nat} {xs : List Float} (length : xs.length = volume shape)
    (depth : shape.length ≤ depthLimit) : (nest shape xs).floats = .ok xs := by
  rw [nest_eq_arrange, floats_arrange (by rwa [List.length_map]) depth isAtom_of_mem_floats,
    mapM_entry]

example : nest [2, 2] [0.5, 1.5, 2.5, 3.5] =
    .list [.list [.float 0.5, .float 1.5], .list [.float 2.5, .float 3.5]] := rfl

/-- A nesting that is too deep is refused. -/
theorem floats_nest_of_deep {shape : List Nat} (deep : depthLimit < (seenShape shape).length)
    (xs : List Float) : (nest shape xs).floats = .error .irregular := by
  rw [nest_eq_arrange]
  exact floats_arrange_of_deep deep isAtom_of_mem_floats

end Datum

end Reservoir
