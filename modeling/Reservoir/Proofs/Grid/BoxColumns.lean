import Reservoir.Proofs.Grid.ActiveNumbers
import Reservoir.Proofs.Grid.Vertical

/-!
# Columns of a box

The extraction sorts the cells of a grid and checks its connections. It finds what plain loops
over the box find that ask for the cell at every active position: `Grid.askColumns`. The loops
give the vertical partition of the cells, and there is only one.
-/

namespace Reservoir

namespace Grid

/-- The active cells at a horizontal position, asked for one by one from the top down. -/
def askColumn (g : Grid) (i j : Nat) : Except InputFault (List Int) :=
  ((List.range g.nz).filter fun k => g.isActive i j k).mapM fun (k : Nat) => g.cellAt i j k

/-- The columns of all horizontal positions row by row, without those that have no cell. -/
def askColumns (g : Grid) : Except InputFault (List (List Int)) := do
  let rows ← (List.range g.ny).mapM fun j => (List.range g.nx).mapM fun i => g.askColumn i j
  pure (rows.flatten.filter fun column => !column.isEmpty)

/-- The cells at a horizontal place, from the top down. -/
def cellsBelow (g : Grid) (s : Nat) : List Nat :=
  (List.range g.nz).filterMap fun k => (g.cellNumbers[s + k * g.layer]?).join

/-- The columns of all places that have a cell. -/
def placeColumns (g : Grid) : List (List Nat) :=
  ((List.range g.layer).map g.cellsBelow).filter fun column => !column.isEmpty

variable {g : Grid} {c s : Nat}

theorem mem_cellsBelow :
    c ∈ g.cellsBelow s ↔ ∃ k < g.nz, g.globalCells[c]? = some (s + k * g.layer) := by
  rw [cellsBelow, List.mem_filterMap]
  simp only [List.mem_range, Option.join_eq_some_iff, getElem?_cellNumbers_iff]

theorem position_topology {p : Nat} (h : g.globalCells[c]? = some p) :
    g.topology.position c = p := by
  rw [Topology.position, List.getD_eq_getElem?_getD, cells_topology_of_globalCells h]
  rfl

/-- Place and layer of a cell below a place. -/
theorem fmod_position (hs : s < g.layer) {k : Nat}
    (h : g.globalCells[c]? = some (s + k * g.layer)) :
    (g.topology.position c).fmod g.topology.layer = s ∧
      (g.topology.position c).fdiv g.topology.layer = k := by
  rw [position_topology h, layer_topology, ← Int.ofNat_fmod, ← Int.ofNat_fdiv,
    Nat.add_mul_mod_self_right, Nat.mod_eq_of_lt hs, Nat.add_mul_div_right _ _ g.layer_pos,
    Nat.div_eq_of_lt hs, Nat.zero_add]
  exact ⟨rfl, rfl⟩

theorem exists_place_of_mem {column : List Nat} (h : column ∈ g.placeColumns) :
    ∃ s < g.layer, column = g.cellsBelow s ∧ column ≠ [] := by
  obtain ⟨member, some⟩ := List.mem_filter.mp h
  obtain ⟨s, hs, rfl⟩ := List.mem_map.mp member
  exact ⟨s, List.mem_range.mp hs, rfl, by simpa using some⟩

/-- The cells of a place stand one below the other. -/
theorem pairwise_cellsBelow (hs : s < g.layer) :
    (g.cellsBelow s).Pairwise fun a b =>
      (g.topology.position a).fdiv g.topology.layer <
        (g.topology.position b).fdiv g.topology.layer := by
  rw [cellsBelow, List.pairwise_filterMap]
  refine List.pairwise_lt_range.imp ?_
  intro k l less a ha b hb
  rw [Option.join_eq_some_iff, getElem?_cellNumbers_iff] at ha hb
  rw [(fmod_position hs ha).2, (fmod_position hs hb).2]
  exact Int.ofNat_lt.mpr less

/-- The columns of the places are the vertical partition of the cells. -/
theorem partition_placeColumns (g : Grid) : g.topology.Partition g.placeColumns := by
  apply Topology.partition_of_mem_iff
  · intro column h a ha b hb
    obtain ⟨s, hs, rfl, _⟩ := exists_place_of_mem h
    obtain ⟨_, _, ha⟩ := mem_cellsBelow.mp ha
    obtain ⟨_, _, hb⟩ := mem_cellsBelow.mp hb
    rw [(fmod_position hs ha).1, (fmod_position hs hb).1]
  · intro column h
    obtain ⟨s, hs, rfl, _⟩ := exists_place_of_mem h
    exact pairwise_cellsBelow hs
  · apply List.Pairwise.filter
    rw [List.pairwise_map]
    refine List.pairwise_lt_range.imp_of_mem ?_
    intro s s' hs hs' less a ha b hb
    rw [List.mem_range] at hs hs'
    obtain ⟨_, _, ha⟩ := mem_cellsBelow.mp ha
    obtain ⟨_, _, hb⟩ := mem_cellsBelow.mp hb
    rw [(fmod_position hs ha).1, (fmod_position hs' hb).1]
    exact Int.ofNat_lt.mpr less
  · intro column h
    obtain ⟨_, _, _, some⟩ := exists_place_of_mem h
    exact some
  · intro c
    rw [length_cells_topology, placeColumns, List.flatten_filter_not_isEmpty, List.mem_flatten]
    constructor
    · rintro ⟨column, member, hc⟩
      obtain ⟨s, _, rfl⟩ := List.mem_map.mp member
      obtain ⟨_, _, position⟩ := mem_cellsBelow.mp hc
      exact (List.getElem?_eq_some_iff.mp position).1
    · intro hc
      have position := List.getElem?_eq_getElem (show c < g.globalCells.length from hc)
      have inside := lt_size_of_cellNumbers (getElem?_cellNumbers_iff.mpr position)
      have parts := Nat.mod_add_div' g.globalCells[c] g.layer
      have place : g.globalCells[c] % g.layer ∈ List.range g.layer :=
        List.mem_range.mpr (Nat.mod_lt _ g.layer_pos)
      refine ⟨_, List.mem_map_of_mem place, ?_⟩
      refine mem_cellsBelow.mpr ⟨g.globalCells[c] / g.layer, Nat.div_lt_of_lt_mul inside, ?_⟩
      rw [parts]
      exact position

/-- The extraction finds the columns of the places. -/
theorem columns_topology (g : Grid) : g.topology.columns = .ok g.placeColumns := by
  have extracted : ∃ columns, g.topology.columns = .ok columns := by
    by_cases none : g.topology.cells = []
    · exact ⟨_, Topology.columns_of_nil none⟩
    · refine ⟨_, (Topology.columns_eq_ok_iff none).mpr ⟨?_, ?_, g.checkConnections_topology, rfl⟩⟩
      · intro p hp
        obtain ⟨c, hc⟩ := List.mem_iff_getElem?.mp hp
        rw [getElem?_cells_topology, Option.map_eq_some_iff] at hc
        obtain ⟨p, hc, rfl⟩ := hc
        have inside := lt_size_of_cellNumbers (getElem?_cellNumbers_iff.mpr hc)
        refine ⟨Int.natCast_nonneg p, ?_⟩
        change (p : Int) < (g.nx : Int) * g.ny * g.nz
        exact_mod_cast inside
      · refine List.Nodup.map (fun p q h => Int.ofNat.inj h) ?_
        exact g.pairwise_globalCells.imp Nat.ne_of_lt
  obtain ⟨columns, found⟩ := extracted
  rw [found, (Topology.partition_of_columns found).unique g.partition_placeColumns]

theorem outcome_extract_topology (g : Grid) :
    g.topology.extract.outcome = .ok
      { columns := g.placeColumns.map .flat
        index := Topology.numberOfColumn g.placeColumns } := by
  rw [Topology.outcome_extract, columns_topology]
  rfl

/-- The loop over the layers at a place asks for the cells below it. -/
theorem askColumn_eq {i j : Nat} (hi : i < g.nx) (hj : j < g.ny) :
    g.askColumn i j = .ok ((g.cellsBelow (i + j * g.nx)).map Int.ofNat) := by
  rw [askColumn, cellsBelow, List.map_filterMap]
  apply mapM_filter_eq_ok
  · intro k hk active
    obtain ⟨c, _, at_c⟩ := exists_cell_of_active active
    have found : g.cellNumbers[i + j * g.nx + k * g.layer]? = some (some c) :=
      getElem?_cellNumbers_iff.mpr at_c
    refine ⟨c, cellAt_of_globalCells hi hj (List.mem_range.mp hk) at_c, ?_⟩
    rw [found]
    rfl
  · intro k _ inactive
    cases found : g.cellNumbers[i + j * g.nx + k * g.layer]?.join with
    | none => rfl
    | some c =>
        rw [Option.join_eq_some_iff, getElem?_cellNumbers_iff] at found
        exact absurd (List.mem_of_getElem? found) (isActive_eq_false_iff.mp inactive)

/-- Loops over the rows and over the places of a row are one loop over all places. -/
theorem flatten_map_range {α : Type} (f : Nat → α) (m n : Nat) :
    ((List.range m).map fun j => (List.range n).map fun i => f (i + j * n)).flatten =
      (List.range (n * m)).map f := by
  induction m with
  | zero => simp
  | succ m ih =>
      rw [List.range_succ, List.map_append, List.flatten_append, ih, Nat.mul_succ, List.range_add,
        List.map_append]
      simp [Function.comp_def, Nat.mul_comm n m, Nat.add_comm]

/-- The loops find the columns of the places. -/
theorem askColumns_eq (g : Grid) :
    g.askColumns = .ok (g.placeColumns.map fun column => column.map Int.ofNat) := by
  have rows : ((List.range g.ny).mapM fun j => (List.range g.nx).mapM fun i => g.askColumn i j) =
      .ok ((List.range g.ny).map fun j =>
        (List.range g.nx).map fun i => (g.cellsBelow (i + j * g.nx)).map Int.ofNat) := by
    refine mapM_eq_ok_map fun j hj => mapM_eq_ok_map fun i hi => ?_
    exact askColumn_eq (List.mem_range.mp hi) (List.mem_range.mp hj)
  rw [askColumns, rows]
  refine congrArg Except.ok ?_
  rw [flatten_map_range (fun s => (g.cellsBelow s).map Int.ofNat), placeColumns, List.filter_map,
    List.filter_map, List.map_map]
  simp [Function.comp_def, layer]

/-- Without inactive positions every cell is numbered as its position. -/
theorem numbered_of_all {bs : List Bool} (h : ∀ b ∈ bs, b = true) (start n : Nat) :
    n < bs.length → (numbered start bs)[n]? = some (some (start + n)) := by
  induction bs generalizing start n with
  | nil => exact nofun
  | cons b bs ih =>
      intro hn
      obtain rfl := h b (by simp)
      cases n with
      | zero => rfl
      | succ n =>
          have next := ih (fun d hd => h d (by simp [hd])) (start + 1) n (by simpa using hn)
          rw [numbered, List.getElem?_cons_succ, next]
          congr 2
          omega

theorem placeColumns_of_all (h : ∀ b ∈ g.active, b = true) :
    g.placeColumns = (List.range g.layer).map fun s =>
      (List.range g.nz).map fun k => s + k * g.layer := by
  have full : ∀ s ∈ List.range g.layer, g.cellsBelow s =
      (List.range g.nz).map fun k => s + k * g.layer := by
    intro s hs
    rw [cellsBelow, ← List.filterMap_eq_map]
    refine List.filterMap_congr fun k hk => ?_
    have inside : s + k * g.layer < g.active.length := by
      have below : (k + 1) * g.layer ≤ g.nz * g.layer :=
        Nat.mul_le_mul_right _ (List.mem_range.mp hk)
      rw [Nat.succ_mul, Nat.mul_comm g.nz] at below
      have hs := List.mem_range.mp hs
      rw [g.length_active]
      exact Nat.lt_of_lt_of_le (by omega) below
    rw [cellNumbers, numbered_of_all h 0 _ inside, Nat.zero_add]
    rfl
  rw [placeColumns, List.map_congr_left full, List.filter_eq_self]
  intro column hc
  obtain ⟨s, _, rfl⟩ := List.mem_map.mp hc
  simpa using Nat.ne_of_gt g.nz_pos

variable {nx ny nz : Nat} {mask : List Bool}

/-- The columns that are extracted from a box of positive dimensions with any mask are those
that plain loops ask for. In a box without inactive positions these are all places, each with
one cell on every layer. -/
theorem extract_eq_askColumns (hx : 1 ≤ nx) (hy : 1 ≤ ny) (hz : 1 ≤ nz)
    (length : mask.length = nx * ny * nz) :
    ∃ g columns e, read (.int nx) (.int ny) (.int nz) (some (.ofFlags mask)) = .ok g ∧
      (g.nx = nx ∧ g.ny = ny ∧ g.nz = nz ∧ g.active = mask) ∧
      g.topology.extract.outcome = .ok e ∧
      e.columns = columns.map .flat ∧
      g.askColumns = .ok (columns.map fun column => column.map Int.ofNat) ∧
      ((∀ b ∈ mask, b = true) → columns = (List.range (nx * ny)).map fun s =>
        (List.range nz).map fun k => s + k * (nx * ny)) := by
  obtain ⟨g, made, rfl, rfl, rfl, rfl⟩ := read_ofFlags hx hy hz length
  exact ⟨g, g.placeColumns, _, made, ⟨rfl, rfl, rfl, rfl⟩, g.outcome_extract_topology, rfl,
    g.askColumns_eq, placeColumns_of_all⟩

/-- A box of two places on three layers, one place with a hole and the other without a cell. -/
theorem extract_eq_askColumns_hole :
    (1 ≤ 2 ∧ 1 ≤ 1 ∧ 1 ≤ 3 ∧ [true, false, false, false, true, false].length = 2 * 1 * 3) ∧
    ∃ g columns e, read (.int 2) (.int 1) (.int 3)
        (some (.ofFlags [true, false, false, false, true, false])) = .ok g ∧
      (g.nx = 2 ∧ g.ny = 1 ∧ g.nz = 3 ∧ g.active = [true, false, false, false, true, false]) ∧
      g.topology.extract.outcome = .ok e ∧
      e.columns = columns.map .flat ∧
      g.askColumns = .ok (columns.map fun column => column.map Int.ofNat) ∧
      ((∀ b ∈ [true, false, false, false, true, false], b = true) →
        columns = (List.range (2 * 1)).map fun s =>
          (List.range 3).map fun k => s + k * (2 * 1)) :=
  ⟨by decide, extract_eq_askColumns (by decide) (by decide) (by decide) (by decide)⟩

end Grid

end Reservoir
