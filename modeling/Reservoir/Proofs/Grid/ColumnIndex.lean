import Reservoir.Proofs.Grid.Columns

/-!
# The numbers of the columns

Every cell is told its column by writing the number of each column at the cells in it. Since a
cell is in one column, what has been written is not overwritten, and since it is in some column,
nothing is left unwritten.
-/

namespace Reservoir

namespace Topology

/-- The number of a column, written at each of its cells. -/
def writeNumber (numbers : Array Int) (column : List Nat × Nat) : Array Int :=
  column.1.foldl (fun acc c => acc.setIfInBounds c (column.2 : Int)) numbers

theorem numberOfColumn_eq (columns : List (List Nat)) :
    numberOfColumn columns =
      (columns.zipIdx.foldl writeNumber (Array.replicate columns.flatten.length (-1))).toList :=
  rfl

variable {columns : List (List Nat)} {column : List Nat} {c m : Nat}

@[simp] theorem size_writeNumber (numbers : Array Int) (column : List Nat × Nat) :
    (writeNumber numbers column).size = numbers.size := by
  obtain ⟨cells, m⟩ := column
  induction cells generalizing numbers with
  | nil => rfl
  | cons a rest ih => exact (ih _).trans Array.size_setIfInBounds

@[simp] theorem size_foldl_writeNumber (numbered : List (List Nat × Nat)) (numbers : Array Int) :
    (numbered.foldl writeNumber numbers).size = numbers.size := by
  induction numbered generalizing numbers with
  | nil => rfl
  | cons column rest ih => rw [List.foldl_cons, ih, size_writeNumber]

theorem length_numberOfColumn : (numberOfColumn columns).length = columns.flatten.length := by
  rw [numberOfColumn_eq, Array.length_toList, size_foldl_writeNumber, Array.size_replicate]

theorem getElem?_writeNumber (numbers : Array Int) (cells : List Nat) (m : Nat) :
    (writeNumber numbers (cells, m))[c]? =
      if c ∈ cells ∧ c < numbers.size then some (m : Int) else numbers[c]? := by
  induction cells generalizing numbers with
  | nil => simp [writeNumber]
  | cons a rest ih =>
      have first : writeNumber numbers (a :: rest, m) =
          writeNumber (numbers.setIfInBounds a m) (rest, m) := rfl
      rw [first, ih, Array.size_setIfInBounds, Array.getElem?_setIfInBounds]
      by_cases inside : c < numbers.size
      · by_cases later : c ∈ rest <;> by_cases here : a = c <;> simp [inside, later, here]
        exact fun same => absurd same.symm here
      · by_cases here : a = c <;> simp [inside, here]

/-- What stands at a cell stays there while columns without it are numbered. -/
theorem getElem?_foldl_of_not_mem {numbered : List (List Nat × Nat)}
    (h : ∀ column ∈ numbered, c ∉ column.1) (numbers : Array Int) :
    (numbered.foldl writeNumber numbers)[c]? = numbers[c]? := by
  induction numbered generalizing numbers with
  | nil => rfl
  | cons column rest ih =>
      have apart : c ∉ column.1 := h column List.mem_cons_self
      rw [List.foldl_cons, ih fun other member => h other (List.mem_cons_of_mem _ member),
        getElem?_writeNumber, if_neg fun both => apart both.1]

/-- Of columns that share no cells, each cell keeps the number of its own. -/
theorem getElem?_foldl_of_mem {numbered : List (List Nat × Nat)}
    (disjoint : numbered.Pairwise fun a b => a.1.Disjoint b.1) (hm : (column, m) ∈ numbered)
    (hc : c ∈ column) {numbers : Array Int} (inside : c < numbers.size) :
    (numbered.foldl writeNumber numbers)[c]? = some (m : Int) := by
  induction numbered generalizing numbers with
  | nil => cases hm
  | cons first rest ih =>
      rw [List.pairwise_cons] at disjoint
      rw [List.foldl_cons]
      rcases List.mem_cons.mp hm with rfl | later
      · rw [getElem?_foldl_of_not_mem fun other member => disjoint.1 other member hc,
          getElem?_writeNumber, if_pos ⟨hc, inside⟩]
      · exact ih disjoint.2 later (by simpa using inside)

variable {t : Topology}

/-- The number that stands at a cell is the place of its column. -/
theorem Partition.getElem?_numberOfColumn_iff (h : t.Partition columns) {z : Int} :
    (numberOfColumn columns)[c]? = some z ↔
      ∃ (m : Nat) (column : List Nat), columns[m]? = some column ∧ c ∈ column ∧ z = m := by
  have written : ∀ {m : Nat} {column : List Nat}, columns[m]? = some column → c ∈ column →
      (numberOfColumn columns)[c]? = some (m : Int) := by
    intro m column at_m hc
    have distinct : columns.flatten.Nodup := h.perm.nodup_iff.mpr List.nodup_range
    have disjoint : columns.zipIdx.Pairwise fun a b => a.1.Disjoint b.1 := by
      have apart := (List.nodup_flatten.mp distinct).2
      rw [← List.zipIdx_map_fst 0 columns, List.pairwise_map] at apart
      exact apart
    have inside : c < columns.flatten.length := by
      rw [h.perm.length_eq, List.length_range]
      exact h.lt_length (List.mem_of_getElem? at_m) hc
    rw [numberOfColumn_eq, Array.getElem?_toList]
    exact getElem?_foldl_of_mem disjoint (List.mem_zipIdx_iff_getElem?.mpr at_m) hc
      (by simpa using inside)
  constructor
  · intro found
    obtain ⟨inside, _⟩ := List.getElem?_eq_some_iff.mp found
    rw [length_numberOfColumn, h.perm.length_eq, List.length_range] at inside
    obtain ⟨column, hcolumn, hc⟩ := h.exists_column inside
    obtain ⟨m, at_m⟩ := List.mem_iff_getElem?.mp hcolumn
    exact ⟨m, column, at_m, hc, Option.some.inj (found.symm.trans (written at_m hc))⟩
  · rintro ⟨m, column, at_m, hc, rfl⟩
    exact written at_m hc

end Topology

end Reservoir
