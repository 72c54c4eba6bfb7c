import Mathlib.Algebra.BigOperators.Group.List.Basic
import Mathlib.Data.List.Basic
import Mathlib.Logic.ExistsUnique

/-!
# Parts of a concatenation

Lists laid out one after the other. A part begins where the parts before it end, and every
position of the whole lies in one part: an empty part begins where the next one does, but no
position lies in it. Parts of one length begin at the multiples of that length.
-/

namespace Reservoir

section Parts

variable {α β : Type} {f : α → List β} {xs : List α}

/-- The position at which a part of a concatenation begins. -/
def partStart (f : α → List β) (xs : List α) (n : Nat) : Nat := ((xs.take n).flatMap f).length

/-- A position is entry `place.2` of part `place.1`. -/
def PartAt (f : α → List β) (xs : List α) (place : Nat × Nat) (position : Nat) : Prop :=
  ∃ x, xs[place.1]? = some x ∧ place.2 < (f x).length ∧ partStart f xs place.1 + place.2 = position

@[simp] theorem partStart_zero (f : α → List β) (xs : List α) : partStart f xs 0 = 0 := by
  simp [partStart]

theorem partStart_succ_cons (f : α → List β) (x : α) (xs : List α) (n : Nat) :
    partStart f (x :: xs) (n + 1) = (f x).length + partStart f xs n := by
  simp [partStart]

/-- After all parts comes the end of the whole. -/
theorem partStart_length (f : α → List β) (xs : List α) :
    partStart f xs xs.length = (xs.flatMap f).length := by
  rw [partStart, List.take_length]

theorem partStart_succ {n : Nat} {x : α} (h : xs[n]? = some x) :
    partStart f xs (n + 1) = partStart f xs n + (f x).length := by
  rw [partStart, List.take_add_one, h]
  simp [partStart]

theorem partStart_mono (f : α → List β) (xs : List α) {m n : Nat} (h : m ≤ n) :
    partStart f xs m ≤ partStart f xs n := by
  obtain ⟨d, rfl⟩ := Nat.exists_eq_add_of_le h
  rw [partStart, partStart, List.take_add, List.flatMap_append, List.length_append]
  exact Nat.le_add_right _ _

theorem getElem?_flatMap_partStart {n c : Nat} {x : α} (h : xs[n]? = some x)
    (hc : c < (f x).length) : (xs.flatMap f)[partStart f xs n + c]? = (f x)[c]? := by
  induction xs generalizing n with
  | nil => cases h
  | cons y xs ih =>
      rw [List.flatMap_cons]
      cases n with
      | zero =>
          cases h
          rw [partStart_zero, Nat.zero_add, List.getElem?_append_left hc]
      | succ n =>
          rw [partStart_succ_cons, Nat.add_assoc, List.getElem?_append_right (Nat.le_add_right _ _),
            Nat.add_sub_cancel_left]
          exact ih h

/-- A part ends before the next ones begin. -/
theorem PartAt.lt_partStart {place : Nat × Nat} {position n : Nat} (h : PartAt f xs place position)
    (later : place.1 < n) : position < partStart f xs n := by
  obtain ⟨x, hx, inside, rfl⟩ := h
  have next := partStart_mono f xs (Nat.succ_le_of_lt later)
  rw [partStart_succ hx] at next
  omega

theorem PartAt.lt_length {place : Nat × Nat} {position : Nat} (h : PartAt f xs place position) :
    position < (xs.flatMap f).length := by
  obtain ⟨x, hx, _⟩ := id h
  rw [← partStart_length f xs]
  exact h.lt_partStart (List.getElem?_eq_some_iff.mp hx).1

/-- A position lies in one part only. -/
theorem PartAt.unique {one two : Nat × Nat} {position : Nat} (h : PartAt f xs one position)
    (h' : PartAt f xs two position) : one = two := by
  obtain ⟨_, _, _, place⟩ := id h
  obtain ⟨_, _, _, place'⟩ := id h'
  have part : one.1 = two.1 := by
    rcases Nat.lt_trichotomy one.1 two.1 with less | same | greater
    · have := h.lt_partStart less
      omega
    · exact same
    · have := h'.lt_partStart greater
      omega
  rw [part] at place
  exact Prod.ext part (by omega)

theorem exists_partAt {position : Nat} (h : position < (xs.flatMap f).length) :
    ∃ place, PartAt f xs place position := by
  induction xs generalizing position with
  | nil => cases h
  | cons x xs ih =>
      rw [List.flatMap_cons, List.length_append] at h
      by_cases first : position < (f x).length
      · exact ⟨(0, position), x, rfl, first, by simp⟩
      · have later : position - (f x).length < (xs.flatMap f).length := by omega
        obtain ⟨⟨n, c⟩, y, hy, inside, place⟩ := ih later
        simp only at hy inside place
        refine ⟨(n + 1, c), y, hy, inside, ?_⟩
        rw [partStart_succ_cons]
        omega

/-- Every position of a concatenation lies in exactly one part. -/
theorem existsUnique_partAt {position : Nat} (h : position < (xs.flatMap f).length) :
    ∃! place, PartAt f xs place position := by
  obtain ⟨place, here⟩ := exists_partAt h
  exact ⟨place, here, fun other there => there.unique here⟩

end Parts

section Blocks

variable {α β : Type} {f : α → List β} {k : Nat} {xs : List α}

theorem length_flatMap_of_length (length : ∀ x ∈ xs, (f x).length = k) :
    (xs.flatMap f).length = xs.length * k := by
  rw [List.length_flatMap, List.map_congr_left length, List.map_const', List.sum_replicate_nat]

/-- Parts of one length begin at its multiples. -/
theorem partStart_of_length (length : ∀ x ∈ xs, (f x).length = k) {n : Nat} (h : n ≤ xs.length) :
    partStart f xs n = n * k := by
  rw [partStart, length_flatMap_of_length fun x hx => length x (List.mem_of_mem_take hx),
    List.length_take_of_le h]

/-- Blocks of one length laid out one after the other: entry `p` of block `n`. -/
theorem getElem?_flatMap_of_length {p : Nat} (length : ∀ x ∈ xs, (f x).length = k) (hp : p < k)
    (n : Nat) : (xs.flatMap f)[k * n + p]? = xs[n]?.bind fun x => (f x)[p]? := by
  cases hx : xs[n]? with
  | none =>
      have outside : k * xs.length ≤ k * n :=
        Nat.mul_le_mul_left k (List.getElem?_eq_none_iff.mp hx)
      rw [Nat.mul_comm k xs.length, ← length_flatMap_of_length length] at outside
      exact List.getElem?_eq_none (Nat.le_trans outside (Nat.le_add_right _ _))
  | some x =>
      have inside : n < xs.length := (List.getElem?_eq_some_iff.mp hx).1
      rw [Nat.mul_comm, ← partStart_of_length length (Nat.le_of_lt inside)]
      apply getElem?_flatMap_partStart hx
      rw [length x (List.mem_of_getElem? hx)]
      exact hp

end Blocks

end Reservoir
