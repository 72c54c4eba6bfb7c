import Reservoir.Proofs.Concatenation
import Reservoir.Well.WellSet

/-!
# The connections of a set of wells

The cells of all connections are the cells of the wells one after the other, and the positions
of the wells are where their parts begin. So every flat position belongs to one connection of
one well, whether or not some wells have no connections.
-/

namespace Reservoir

namespace WellSet

/-- The flat position of a connection of a well. -/
def flatPosition? (ws : WellSet) (n c : Nat) : Option Nat :=
  match ws.wells[n]?, ws.connectionPositions[n]? with
  | some w, some start => if c < w.cells.length then some (start + c) else none
  | _, _ => none

theorem positionsFrom_eq (start : Nat) (wells : List Well) :
    positionsFrom start wells =
      (List.range (wells.length + 1)).map fun n => start + partStart Well.cells wells n := by
  induction wells generalizing start with
  | nil => rfl
  | cons w wells ih =>
      have tail : ∀ n, start + w.cells.length + partStart Well.cells wells n =
          start + partStart Well.cells (w :: wells) (n + 1) := by
        intro n
        rw [partStart_succ_cons, Nat.add_assoc]
      have numbers : List.range (wells.length + 1 + 1) =
          0 :: (List.range (wells.length + 1)).map Nat.succ := List.range_succ_eq_map
      rw [positionsFrom, ih, List.length_cons, numbers]
      simp [tail, Function.comp_def]

/-- The positions of the wells are those of the parts of the list of cells. -/
theorem getElem?_connectionPositions (ws : WellSet) {n : Nat} (h : n ≤ ws.size) :
    ws.connectionPositions[n]? = some (partStart Well.cells ws.wells n) := by
  have inside : n < ws.wells.length + 1 := Nat.lt_succ_of_le h
  rw [connectionPositions, positionsFrom_eq, List.getElem?_map, List.getElem?_range inside]
  exact congrArg some (Nat.zero_add _)

/-- Every connection of a well has a flat position. -/
theorem exists_flatPosition {ws : WellSet} {n c : Nat}
    (h : ∃ w, ws.wells[n]? = some w ∧ c < w.cells.length) :
    ∃ start, ws.connectionPositions[n]? = some start ∧ ws.flatPosition? n c = some (start + c) := by
  obtain ⟨w, hw, hc⟩ := h
  have inside : n ≤ ws.size := Nat.le_of_lt (List.getElem?_eq_some_iff.mp hw).1
  have position := ws.getElem?_connectionPositions inside
  refine ⟨_, position, ?_⟩
  rw [flatPosition?, hw, position]
  exact if_pos hc

/-- A flat position is a connection's exactly when it lies at that place of the well's part. -/
theorem flatPosition?_eq_some_iff {ws : WellSet} {n c f : Nat} :
    ws.flatPosition? n c = some f ↔ PartAt Well.cells ws.wells (n, c) f := by
  rw [flatPosition?, PartAt]
  cases hw : ws.wells[n]? with
  | none => simp
  | some w =>
      have inside : n ≤ ws.size := Nat.le_of_lt (List.getElem?_eq_some_iff.mp hw).1
      simp [ws.getElem?_connectionPositions inside]

theorem lt_totalConnections {ws : WellSet} {n c f : Nat} (h : ws.flatPosition? n c = some f) :
    f < ws.totalConnections := by
  rw [← length_wellCells]
  exact (flatPosition?_eq_some_iff.mp h).lt_length

theorem flatPosition?_inj {ws : WellSet} {n c m d f : Nat} (h : ws.flatPosition? n c = some f)
    (h' : ws.flatPosition? m d = some f) : n = m ∧ c = d :=
  Prod.mk.inj ((flatPosition?_eq_some_iff.mp h).unique (flatPosition?_eq_some_iff.mp h'))

/-- The layout of connections: the positions start at zero, grow by the number of connections of
every well and end with the number of all, the cell of a connection stands at its flat position,
and every flat position belongs to one connection. -/
structure LaidOut (ws : WellSet) : Prop where
  length_positions : ws.connectionPositions.length = ws.size + 1
  first : ws.connectionPositions[0]? = some 0
  next : ∀ (n : Nat) (w : Well), ws.wells[n]? = some w →
    ∃ start, ws.connectionPositions[n]? = some start ∧
      ws.connectionPositions[n + 1]? = some (start + w.cells.length)
  last : ws.connectionPositions[ws.size]? = some ws.totalConnections
  length_cells : ws.wellCells.length = ws.totalConnections
  cell : ∀ (n : Nat) (w : Well) (c : Nat) (cell : Int), ws.wells[n]? = some w →
    w.cells[c]? = some cell →
      ∃ f, ws.flatPosition? n c = some f ∧ ws.wellCells[f]? = some cell
  unique : ∀ f < ws.totalConnections, ∃! place : Nat × Nat,
    ws.flatPosition? place.1 place.2 = some f

/-- The connections of every set of wells are laid out. -/
theorem laidOut (ws : WellSet) : ws.LaidOut := by
  refine ⟨length_positionsFrom 0 ws.wells, ?_, ?_, ?_, ws.length_wellCells, ?_, ?_⟩
  · rw [getElem?_connectionPositions ws (Nat.zero_le _), partStart_zero]
  · intro n w hw
    have inside : n < ws.size := (List.getElem?_eq_some_iff.mp hw).1
    refine ⟨_, getElem?_connectionPositions ws (Nat.le_of_lt inside), ?_⟩
    rw [getElem?_connectionPositions ws inside, partStart_succ hw]
  · rw [getElem?_connectionPositions ws (Nat.le_refl _), ← length_wellCells]
    exact congrArg some (partStart_length Well.cells ws.wells)
  · intro n w c cell hw hc
    have inside : c < w.cells.length := (List.getElem?_eq_some_iff.mp hc).1
    refine ⟨_, flatPosition?_eq_some_iff.mpr ⟨w, hw, inside, rfl⟩, ?_⟩
    rw [← hc]
    exact getElem?_flatMap_partStart hw inside
  · intro f hf
    rw [← length_wellCells] at hf
    simp only [flatPosition?_eq_some_iff]
    exact existsUnique_partAt hf

end WellSet

end Reservoir
