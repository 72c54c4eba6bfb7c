import Reservoir.Proofs.Grid.Mask

/-!
# Cells and active positions

The cells of a box are numbered from zero in the order of their positions, and the positions of
cells are the active ones. So the number of a cell and the coordinates of an active position
determine each other: to go from a cell to its coordinates and back, or from an active position
to its cell and back, leads to where one started. At an inactive position there is -1 in place of
a cell.
-/

namespace Reservoir.Grid

/-- What the numbering of the active positions of a box has to satisfy. -/
structure NumbersActive (g : Grid) : Prop where
  ascending : g.globalCells.Pairwise (· < ·)
  mem_iff : ∀ p, p ∈ g.globalCells ↔ g.active[p]? = some true
  lengths : g.coordinateLists.1.length = g.cellCount ∧
    g.coordinateLists.2.1.length = g.cellCount ∧ g.coordinateLists.2.2.length = g.cellCount
  ofCell : ∀ c < g.cellCount, ∃ i j k : Nat, g.cellCoordinates c = .ok (i, j, k) ∧
    (i < g.nx ∧ j < g.ny ∧ k < g.nz) ∧
    (∃ p : Nat, g.globalCells[c]? = some p ∧ g.position i j k = p) ∧
    g.cellAt i j k = .ok c ∧
    g.coordinateLists.1[c]? = some i ∧ g.coordinateLists.2.1[c]? = some j ∧
    g.coordinateLists.2.2[c]? = some k
  ofPosition : ∀ i < g.nx, ∀ j < g.ny, ∀ k < g.nz,
    (g.cellAt i j k = .ok (-1) ↔ g.isActive i j k = false) ∧
    (g.isActive i j k = true →
      ∃ c < g.cellCount, g.cellAt i j k = .ok c ∧ g.cellCoordinates c = .ok (i, j, k))

variable {g : Grid} {c p i j k : Nat}

theorem cellCoordinates_of_globalCells (h : g.globalCells[c]? = some p) :
    g.cellCoordinates c = .ok (g.coordinates p) := by
  have inside := (List.getElem?_eq_some_iff.mp h).1
  rw [cellCoordinates, atPlace?, place?_ofNat inside, Option.bind_some, h]

/-- The cell at the coordinates of its position is found there. -/
theorem cellAt_of_globalCells (hi : i < g.nx) (hj : j < g.ny) (hk : k < g.nz)
    (h : g.globalCells[c]? = some (g.positionAt i j k)) : g.cellAt i j k = .ok c := by
  obtain ⟨o, found, answer⟩ := cellAt_eq hi hj hk
  rw [getElem?_cellNumbers_iff.mpr h] at found
  cases found
  exact answer

/-- At an inactive position there is no cell. -/
theorem cellAt_of_inactive (hi : i < g.nx) (hj : j < g.ny) (hk : k < g.nz)
    (h : g.isActive i j k = false) : g.cellAt i j k = .ok (-1) := by
  obtain ⟨o, found, answer⟩ := cellAt_eq hi hj hk
  cases o with
  | none => exact answer
  | some c =>
      have member := List.mem_of_getElem? (getElem?_cellNumbers_iff.mp found)
      exact absurd member (isActive_eq_false_iff.mp h)

theorem exists_cell_of_active (h : g.isActive i j k = true) :
    ∃ c < g.cellCount, g.globalCells[c]? = some (g.positionAt i j k) := by
  obtain ⟨c, at_c⟩ := List.mem_iff_getElem?.mp (isActive_iff_mem.mp h)
  exact ⟨c, (List.getElem?_eq_some_iff.mp at_c).1, at_c⟩

theorem numbersActive (g : Grid) : g.NumbersActive := by
  refine ⟨g.pairwise_globalCells, fun _ => mem_globalCells_iff, ?_, ?_, ?_⟩
  · simp [coordinateLists, cellCount]
  · intro c hc
    obtain ⟨p, at_c⟩ : ∃ p, g.globalCells[c]? = some p := ⟨_, List.getElem?_eq_getElem hc⟩
    have place := g.positionAt_coordinates p
    obtain ⟨hi, hj, hk⟩ := coordinates_lt (lt_size_of_mem (List.mem_of_getElem? at_c))
    refine ⟨p % g.nx, p % g.layer / g.nx, p / g.layer, cellCoordinates_of_globalCells at_c,
      ⟨hi, hj, hk⟩, ⟨p, at_c, ?_⟩, ?_, ?_⟩
    · rw [position_natCast, place]
    · apply cellAt_of_globalCells hi hj hk
      rw [place, at_c]
    · simp [coordinateLists, at_c, coordinates]
  · intro i hi j hj k hk
    refine ⟨⟨?_, cellAt_of_inactive hi hj hk⟩, ?_⟩
    · intro absent
      rw [← Bool.not_eq_true]
      intro active
      obtain ⟨c, _, at_c⟩ := exists_cell_of_active active
      rw [cellAt_of_globalCells hi hj hk at_c, Except.ok.injEq] at absent
      omega
    · intro active
      obtain ⟨c, hc, at_c⟩ := exists_cell_of_active active
      refine ⟨c, hc, cellAt_of_globalCells hi hj hk at_c, ?_⟩
      rw [cellCoordinates_of_globalCells at_c, coordinates_positionAt hi hj]

/-- In a box of positive dimensions, under a mask of as many values as it has positions, cells
and active positions are numbered one to one. -/
theorem read_numbersActive {nx ny nz : Nat} {mask : Datum} {active : List Bool} (hx : 1 ≤ nx)
    (hy : 1 ≤ ny) (hz : 1 ≤ nz) (given : mask.isNull = false) (flags : mask.flags = .ok active)
    (length : active.length = nx * ny * nz) :
    ∃ g, read (.int nx) (.int ny) (.int nz) (some mask) = .ok g ∧
      (g.nx = nx ∧ g.ny = ny ∧ g.nz = nz ∧ g.active = active) ∧ g.NumbersActive := by
  obtain ⟨g, made, rfl, rfl, rfl, rfl⟩ := read_of_flags hx hy hz given flags length
  exact ⟨g, made, ⟨rfl, rfl, rfl, rfl⟩, g.numbersActive⟩

/-- A mask of two layers, written as a list of rows of different kinds of values. -/
theorem read_numbersActive_twoLayers :
    let mask : Datum := .list [.list [.bool true, .int 0, .int (-3)],
      .list [.null, .int 1, .text "x"]]
    (1 ≤ 3 ∧ 1 ≤ 1 ∧ 1 ≤ 2 ∧ mask.isNull = false ∧
      mask.flags = .ok [true, false, true, false, true, true] ∧
      [true, false, true, false, true, true].length = 3 * 1 * 2) ∧
    ∃ g, read (.int 3) (.int 1) (.int 2) (some mask) = .ok g ∧
      (g.nx = 3 ∧ g.ny = 1 ∧ g.nz = 2 ∧ g.active = [true, false, true, false, true, true]) ∧
      g.NumbersActive := by
  intro mask
  have flags : mask.flags = .ok [true, false, true, false, true, true] := rfl
  exact ⟨⟨by decide, by decide, by decide, rfl, flags, rfl⟩,
    read_numbersActive (by decide) (by decide) (by decide) rfl flags rfl⟩

end Reservoir.Grid
