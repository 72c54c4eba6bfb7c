import Mathlib.Data.List.Sort
import Reservoir.Grid.Cartesian

/-!
# The numbering of cells and positions

Cells are numbered in the order of their positions, so `globalCells` and `cellNumbers` are
inverse to each other: the cell at a position is the one that has this position. Coordinates
and positions are inverse to each other inside the box.
-/

namespace Reservoir.Grid

section Lists

variable {start number c p n : Nat} {bs : List Bool}

theorem le_of_numbered (h : (numbered number bs)[n]? = some (some c)) : number ≤ c := by
  induction bs generalizing number n with
  | nil => simp [numbered] at h
  | cons b bs ih =>
      cases n with
      | zero => cases b <;> simp_all [numbered]
      | succ n =>
          cases b with
          | false => exact ih (by simpa [numbered] using h)
          | true => exact Nat.le_of_succ_le (ih (by simpa [numbered] using h))

theorem le_of_mem_truePositions (h : p ∈ truePositions start bs) : start ≤ p := by
  induction bs generalizing start with
  | nil => cases h
  | cons b bs ih =>
      cases b with
      | false => exact Nat.le_of_succ_le (ih h)
      | true =>
          rcases List.mem_cons.mp h with rfl | h
          · exact Nat.le_refl p
          · exact Nat.le_of_succ_le (ih h)

theorem pairwise_truePositions (start : Nat) (bs : List Bool) :
    (truePositions start bs).Pairwise (· < ·) := by
  induction bs generalizing start with
  | nil => exact List.Pairwise.nil
  | cons b bs ih =>
      cases b with
      | false => exact ih (start + 1)
      | true =>
          exact List.pairwise_cons.mpr ⟨fun p hp => le_of_mem_truePositions hp, ih (start + 1)⟩

/-- The numbering and the list of positions, told apart by where they start. -/
theorem getElem?_truePositions_iff :
    (truePositions start bs)[c]? = some (start + n) ↔
      (numbered number bs)[n]? = some (some (number + c)) := by
  induction bs generalizing start number c n with
  | nil => simp [truePositions, numbered]
  | cons b bs ih =>
      have shift : ∀ m, start + (m + 1) = start + 1 + m := by omega
      cases b with
      | false =>
          cases n with
          | zero =>
              simp only [truePositions, numbered]
              constructor
              · intro h
                have := le_of_mem_truePositions (List.mem_of_getElem? h)
                omega
              · simp
          | succ n =>
              rw [shift]
              exact ih
      | true =>
          cases n with
          | zero =>
              cases c with
              | zero => simp [truePositions, numbered]
              | succ c =>
                  simp only [truePositions, numbered]
                  constructor
                  · intro h
                    have := le_of_mem_truePositions (List.mem_of_getElem? (by simpa using h))
                    omega
                  · simp
          | succ n =>
              cases c with
              | zero =>
                  simp only [truePositions, numbered]
                  constructor
                  · simp
                  · intro h
                    have := le_of_numbered (by simpa using h)
                    omega
              | succ c =>
                  have number : number + (c + 1) = number + 1 + c := by omega
                  rw [shift, number]
                  exact ih

theorem map_isSome_numbered (number : Nat) (bs : List Bool) :
    (numbered number bs).map (·.isSome) = bs := by
  induction bs generalizing number with
  | nil => rfl
  | cons b bs ih => cases b <;> simp [numbered, ih]

theorem length_truePositions (start : Nat) (bs : List Bool) :
    (truePositions start bs).length = bs.count true := by
  induction bs generalizing start with
  | nil => rfl
  | cons b bs ih => cases b <;> simp [truePositions, ih]

end Lists

variable {g : Grid} {c d p q : Nat}

/-- A cell stands at its position. -/
theorem getElem?_cellNumbers_iff :
    g.cellNumbers[p]? = some (some c) ↔ g.globalCells[c]? = some p := by
  have inverse := @getElem?_truePositions_iff 0 0 c p g.active
  simpa [cellNumbers, globalCells] using inverse.symm

theorem pairwise_globalCells (g : Grid) : g.globalCells.Pairwise (· < ·) :=
  pairwise_truePositions 0 g.active

/-- Cells are numbered in the order of their positions. -/
theorem lt_iff_of_globalCells (hp : g.globalCells[c]? = some p) (hq : g.globalCells[d]? = some q) :
    p < q ↔ c < d := by
  obtain ⟨hc, rfl⟩ := List.getElem?_eq_some_iff.mp hp
  obtain ⟨hd, rfl⟩ := List.getElem?_eq_some_iff.mp hq
  exact (List.sortedLT_iff_pairwise.mpr g.pairwise_globalCells).getElem_lt_getElem_iff

theorem lt_size_of_cellNumbers {o : Option Nat} (h : g.cellNumbers[p]? = some o) : p < g.size := by
  have := (List.getElem?_eq_some_iff.mp h).1
  rwa [length_cellNumbers] at this

/-- The position with given coordinates. -/
def positionAt (g : Grid) (i j k : Nat) : Nat := i + j * g.nx + k * g.layer

theorem layer_pos (g : Grid) : 0 < g.layer := Nat.mul_pos g.nx_pos g.ny_pos

theorem size_eq (g : Grid) : g.size = g.layer * g.nz := rfl

theorem position_natCast (g : Grid) (i j k : Nat) : g.position i j k = g.positionAt i j k := by
  rw [position, positionAt, layer, Int.natCast_add, Int.natCast_add, Int.natCast_mul,
    Int.natCast_mul, Int.natCast_mul, Int.mul_assoc k]

/-- A position has its coordinates. -/
theorem positionAt_coordinates (g : Grid) (p : Nat) :
    g.positionAt (p % g.nx) (p % g.layer / g.nx) (p / g.layer) = p := by
  have row : p % g.nx = p % g.layer % g.nx := (Nat.mod_mul_right_mod p g.nx g.ny).symm
  rw [positionAt, row, Nat.mod_add_div', Nat.mod_add_div']

/-- Coordinates of a position in the box lie in the box. -/
theorem coordinates_lt (h : p < g.size) :
    p % g.nx < g.nx ∧ p % g.layer / g.nx < g.ny ∧ p / g.layer < g.nz := by
  refine ⟨Nat.mod_lt _ g.nx_pos, ?_, Nat.div_lt_of_lt_mul h⟩
  apply Nat.div_lt_of_lt_mul
  exact Nat.mod_lt _ g.layer_pos

theorem positionAt_succ (g : Grid) (i j k : Nat) :
    g.positionAt i j (k + 1) = g.positionAt i j k + g.layer := by
  rw [positionAt, positionAt, Nat.succ_mul, ← Nat.add_assoc]

section Box

variable {i j k : Nat}

theorem place_lt_layer (hi : i < g.nx) (hj : j < g.ny) : i + j * g.nx < g.layer := by
  have row : (j + 1) * g.nx ≤ g.ny * g.nx := Nat.mul_le_mul_right _ hj
  rw [layer, Nat.mul_comm g.nx]
  rw [Nat.succ_mul] at row
  omega

theorem positionAt_lt_size (hi : i < g.nx) (hj : j < g.ny) (hk : k < g.nz) :
    g.positionAt i j k < g.size := by
  have place := place_lt_layer hi hj
  have below : (k + 1) * g.layer ≤ g.nz * g.layer := Nat.mul_le_mul_right _ hk
  rw [size_eq, Nat.mul_comm, positionAt]
  rw [Nat.succ_mul] at below
  omega

/-- Coordinates inside the box are those of their position. -/
theorem coordinates_positionAt (hi : i < g.nx) (hj : j < g.ny) :
    g.coordinates (g.positionAt i j k) = (i, j, k) := by
  have place : (i + j * g.nx + k * g.layer) % g.layer = i + j * g.nx := by
    rw [Nat.add_mul_mod_self_right, Nat.mod_eq_of_lt (place_lt_layer hi hj)]
  have column : (i + j * g.nx + k * g.layer) % g.nx = i := by
    rw [← Nat.mod_mul_right_mod _ g.nx g.ny, ← layer, place, Nat.add_mul_mod_self_right,
      Nat.mod_eq_of_lt hi]
  have row : (i + j * g.nx) / g.nx = j := by
    rw [Nat.add_mul_div_right _ _ g.nx_pos, Nat.div_eq_of_lt hi, Nat.zero_add]
  have depth : (i + j * g.nx + k * g.layer) / g.layer = k := by
    rw [Nat.add_mul_div_right _ _ g.layer_pos, Nat.div_eq_of_lt (place_lt_layer hi hj),
      Nat.zero_add]
  rw [coordinates, positionAt, place, column, row, depth]

/-- The cell at coordinates inside the box, or -1. -/
theorem cellAt_eq (hi : i < g.nx) (hj : j < g.ny) (hk : k < g.nz) :
    ∃ o, g.cellNumbers[g.positionAt i j k]? = some o ∧
      g.cellAt i j k = .ok ((o.map Int.ofNat).getD (-1)) := by
  have inside : g.positionAt i j k < g.cellNumbers.length := by
    rw [length_cellNumbers]
    exact positionAt_lt_size hi hj hk
  refine ⟨_, List.getElem?_eq_getElem inside, ?_⟩
  rw [cellAt, atPlace?, position_natCast, place?_ofNat inside, Option.bind_some,
    List.getElem?_eq_getElem inside]
  cases g.cellNumbers[g.positionAt i j k] <;> rfl

end Box

end Reservoir.Grid
