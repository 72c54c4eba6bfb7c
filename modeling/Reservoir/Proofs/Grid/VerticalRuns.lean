import Mathlib.Data.Finset.Card
import Mathlib.Data.Finset.Prod
import Mathlib.Data.Nat.Find
import Reservoir.Proofs.Grid.BoxColumns

/-!
# Vertical connections and columns of a box

A box describes what stands below what in two ways: its vertical connections, and the columns
that are extracted from it. Two cells are connected exactly when they follow each other in a
column and the second one is on the next layer. Cells on neighbouring layers are neighbours in
their column, as the layers of a column rise strictly.

A run is a maximal sequence of active positions one below the other. Every cell is either the
upper end of one connection or the lowest cell of one run, so cells are counted by connections
and runs together.
-/

namespace Reservoir

namespace Grid

/-- The layer of a cell. -/
def layerOf (g : Grid) (c : Int) : Except InputFault Nat :=
  (g.cellCoordinates c).map fun coordinates => coordinates.2.2

/-- Active positions at `(i, j)` from the layer `top` on and above the layer `bottom`, not to be
extended on either side. -/
structure IsRun (g : Grid) (i j top bottom : Nat) : Prop where
  nonempty : top < bottom
  active : ∀ k < bottom, top ≤ k → g.isActive i j k = true
  above : top = 0 ∨ g.isActive i j (top - 1) = false
  below : bottom = g.nz ∨ g.isActive i j bottom = false

instance (g : Grid) (i j top bottom : Nat) : Decidable (g.IsRun i j top bottom) :=
  decidable_of_iff
    (top < bottom ∧ (∀ k < bottom, top ≤ k → g.isActive i j k = true) ∧
      (top = 0 ∨ g.isActive i j (top - 1) = false) ∧
      (bottom = g.nz ∨ g.isActive i j bottom = false))
    ⟨fun ⟨nonempty, active, above, below⟩ => ⟨nonempty, active, above, below⟩,
      fun ⟨nonempty, active, above, below⟩ => ⟨nonempty, active, above, below⟩⟩

/-- The runs at all horizontal positions, as `((i, j), (top, bottom))`. -/
def runs (g : Grid) : Finset ((Nat × Nat) × (Nat × Nat)) :=
  ((Finset.range g.nx ×ˢ Finset.range g.ny) ×ˢ
    (Finset.range g.nz ×ˢ Finset.range (g.nz + 1))).filter
      fun r => g.IsRun r.1.1 r.1.2 r.2.1 r.2.2

/-- Connections join the cells that follow each other in a column on neighbouring layers, each
pair once, and there is one run more for every active position that is no upper end. -/
structure ConnectsNeighbours (g : Grid) (columns : List (List Nat)) : Prop where
  mem_iff : ∀ a b, (a, b) ∈ g.verticalConnections ↔
    ∃ column ∈ columns, ∃ n, column[n]? = some a ∧ column[n + 1]? = some b ∧
      ∃ k, g.layerOf a = .ok k ∧ g.layerOf b = .ok (k + 1)
  nodup : g.verticalConnections.Nodup
  count : g.verticalConnections.length + g.runs.card = g.active.count true

variable {g : Grid} {a b c p : Nat} {i j k : Nat}

section Positions

theorem layerOf_of_globalCells (h : g.globalCells[c]? = some p) :
    g.layerOf c = .ok (p / g.layer) := by
  rw [layerOf, cellCoordinates_of_globalCells h]
  rfl

theorem lt_nz_of_mem {s : Nat} (h : s + k * g.layer ∈ g.globalCells) : k < g.nz := by
  have inside := lt_size_of_mem h
  rw [size_eq, Nat.mul_comm g.layer] at inside
  have least : k * g.layer ≤ s + k * g.layer := Nat.le_add_left _ _
  exact Nat.lt_of_mul_lt_mul_right (Nat.lt_of_le_of_lt least inside)

end Positions

section Neighbours

/-- Where a number rises strictly along a list, nothing lies between two entries whose numbers
follow each other. -/
theorem eq_succ_of_pairwise {xs : List Nat} {f : Nat → Int} {m n : Nat}
    (rises : xs.Pairwise fun a b => f a < f b) (at_m : xs[m]? = some a) (at_n : xs[n]? = some b)
    (next : f b = f a + 1) : n = m + 1 := by
  rw [List.pairwise_iff_getElem] at rises
  obtain ⟨hm, rfl⟩ := List.getElem?_eq_some_iff.mp at_m
  obtain ⟨hn, rfl⟩ := List.getElem?_eq_some_iff.mp at_n
  rcases Nat.lt_trichotomy m n with less | same | more
  · by_contra between
    have first := rises m (m + 1) hm (by omega) (by omega)
    have second := rises (m + 1) n (by omega) hn (by omega)
    omega
  · subst same
    omega
  · have back := rises n m hn hm more
    omega

/-- Cells one below the other follow each other in the column of their place. -/
theorem exists_neighbours {s : Nat} (hs : s < g.layer)
    (upper : g.globalCells[a]? = some (s + k * g.layer))
    (lower : g.globalCells[b]? = some (s + (k + 1) * g.layer)) :
    ∃ n, (g.cellsBelow s)[n]? = some a ∧ (g.cellsBelow s)[n + 1]? = some b := by
  have below : ∀ {c k}, g.globalCells[c]? = some (s + k * g.layer) → c ∈ g.cellsBelow s :=
    fun at_c => mem_cellsBelow.mpr ⟨_, lt_nz_of_mem (List.mem_of_getElem? at_c), at_c⟩
  obtain ⟨m, at_m⟩ := List.mem_iff_getElem?.mp (below upper)
  obtain ⟨n, at_n⟩ := List.mem_iff_getElem?.mp (below lower)
  have next : (g.topology.position b).fdiv g.topology.layer =
      (g.topology.position a).fdiv g.topology.layer + 1 := by
    rw [(fmod_position hs lower).2, (fmod_position hs upper).2, Int.natCast_succ]
  obtain rfl := eq_succ_of_pairwise (pairwise_cellsBelow hs) at_m at_n next
  exact ⟨m, at_m, at_n⟩

theorem layerOf_of_place {s : Nat} (hs : s < g.layer)
    (h : g.globalCells[c]? = some (s + k * g.layer)) : g.layerOf c = .ok k := by
  rw [layerOf_of_globalCells h, Nat.add_mul_div_right _ _ g.layer_pos, Nat.div_eq_of_lt hs,
    Nat.zero_add]

theorem mem_verticalConnections_iff_neighbours :
    (a, b) ∈ g.verticalConnections ↔
      ∃ column ∈ g.placeColumns, ∃ n, column[n]? = some a ∧ column[n + 1]? = some b ∧
        ∃ k, g.layerOf a = .ok k ∧ g.layerOf b = .ok (k + 1) := by
  rw [mem_verticalConnections]
  constructor
  · rintro ⟨p, upper, lower⟩
    have hs : p % g.layer < g.layer := Nat.mod_lt _ g.layer_pos
    have split : p = p % g.layer + p / g.layer * g.layer := (Nat.mod_add_div' p g.layer).symm
    have below : p + g.layer = p % g.layer + (p / g.layer + 1) * g.layer := by
      rw [Nat.succ_mul, ← Nat.add_assoc, ← split]
    rw [split] at upper
    rw [below] at lower
    obtain ⟨n, at_n, next⟩ := exists_neighbours hs upper lower
    refine ⟨g.cellsBelow (p % g.layer), ?_, n, at_n, next, p / g.layer,
      layerOf_of_place hs upper, layerOf_of_place hs lower⟩
    refine List.mem_filter.mpr ⟨List.mem_map_of_mem (List.mem_range.mpr hs), ?_⟩
    simpa using List.ne_nil_of_mem (List.mem_of_getElem? at_n)
  · rintro ⟨column, hcolumn, n, at_n, next, k, upper, lower⟩
    obtain ⟨s, hs, rfl, _⟩ := exists_place_of_mem hcolumn
    obtain ⟨m, _, at_a⟩ := mem_cellsBelow.mp (List.mem_of_getElem? at_n)
    obtain ⟨l, _, at_b⟩ := mem_cellsBelow.mp (List.mem_of_getElem? next)
    obtain rfl : m = k := Except.ok.inj ((layerOf_of_place hs at_a).symm.trans upper)
    obtain rfl : l = m + 1 := Except.ok.inj ((layerOf_of_place hs at_b).symm.trans lower)
    refine ⟨s + m * g.layer, at_a, ?_⟩
    rw [at_b, Nat.succ_mul, Nat.add_assoc]

theorem nodup_verticalConnections (g : Grid) : g.verticalConnections.Nodup := by
  refine g.pairwise_verticalConnections.imp ?_
  rintro c d less rfl
  exact Nat.lt_irrefl _ less.1

end Neighbours

section Runs

variable {top bottom : Nat}

theorem mem_runs : ((i, j), (top, bottom)) ∈ g.runs ↔
    i < g.nx ∧ j < g.ny ∧ g.IsRun i j top bottom := by
  simp only [runs, Finset.mem_filter, Finset.mem_product, Finset.mem_range]
  constructor
  · rintro ⟨⟨⟨hi, hj⟩, _⟩, run⟩
    exact ⟨hi, hj, run⟩
  · rintro ⟨hi, hj, run⟩
    have last := run.active (bottom - 1) (by have := run.nonempty; omega)
      (by have := run.nonempty; omega)
    have inside := lt_nz_of_mem (isActive_iff_mem.mp last)
    have nonempty := run.nonempty
    exact ⟨⟨⟨hi, hj⟩, by omega, by omega⟩, run⟩

/-- Runs that end on the same layer begin on the same layer. -/
theorem IsRun.top_le {top' : Nat} (h : g.IsRun i j top bottom) (h' : g.IsRun i j top' bottom) :
    top ≤ top' := by
  by_contra more
  have nonempty := h.nonempty
  have active := h'.active (top - 1) (by omega) (by omega)
  rcases h.above with first | interrupted
  · omega
  · rw [active] at interrupted
    cases interrupted

/-- An active position that is not followed by one below is the lowest one of a run. -/
theorem exists_isRun (active : g.isActive i j k = true)
    (below : k + 1 = g.nz ∨ g.isActive i j (k + 1) = false) : ∃ top, g.IsRun i j top (k + 1) := by
  have reaches : ∃ top, top ≤ k ∧ ∀ m ≤ k, top ≤ m → g.isActive i j m = true := by
    refine ⟨k, Nat.le_refl k, fun m upper lower => ?_⟩
    rwa [Nat.le_antisymm upper lower]
  -- The run begins at the least layer from which all positions down to this one are active.
  obtain ⟨inside, least⟩ := Nat.find_spec reaches
  refine ⟨Nat.find reaches, by omega, fun m hm => least m (by omega), ?_, below⟩
  rw [← Bool.not_eq_true]
  by_contra extended
  rw [not_or, not_not] at extended
  obtain ⟨positive, above⟩ := extended
  refine Nat.find_min reaches (Nat.sub_one_lt positive) ⟨by omega, fun m upper lower => ?_⟩
  by_cases first : m = Nat.find reaches - 1
  · rwa [first]
  · exact least m upper (by omega)

/-- Whether the position directly below holds a cell. -/
def covers (g : Grid) (p : Nat) : Bool := decide (p + g.layer ∈ g.globalCells)

/-- The positions of cells with no cell directly below. -/
def lowest (g : Grid) : Finset Nat := (g.globalCells.filter fun p => !g.covers p).toFinset

theorem mem_lowest : p ∈ g.lowest ↔ p ∈ g.globalCells ∧ p + g.layer ∉ g.globalCells := by
  simp [lowest, covers]

theorem nodup_globalCells (g : Grid) : g.globalCells.Nodup :=
  g.pairwise_globalCells.imp Nat.ne_of_lt

/-- The lowest position of a run. -/
theorem IsRun.mem_lowest (h : g.IsRun i j top bottom) :
    g.positionAt i j (bottom - 1) ∈ g.lowest := by
  have nonempty := h.nonempty
  have next : bottom - 1 + 1 = bottom := by omega
  rw [Grid.mem_lowest, ← isActive_iff_mem, ← positionAt_succ, next]
  refine ⟨h.active (bottom - 1) (by omega) (by omega), ?_⟩
  rcases h.below with last | interrupted
  · intro member
    exact Nat.ne_of_lt (lt_nz_of_mem member) last
  · exact isActive_eq_false_iff.mp interrupted

/-- There are as many runs as lowest positions. -/
theorem card_runs (g : Grid) : g.runs.card = g.lowest.card := by
  -- A run is known from its lowest position, since runs with one end have one top.
  refine Finset.card_bij (fun r _ => g.positionAt r.1.1 r.1.2 (r.2.2 - 1)) ?_ ?_ ?_
  · rintro ⟨⟨i, j⟩, top, bottom⟩ h
    obtain ⟨_, _, run⟩ := mem_runs.mp h
    exact run.mem_lowest
  · rintro ⟨⟨i, j⟩, top, bottom⟩ h ⟨⟨i', j'⟩, top', bottom'⟩ h' same
    obtain ⟨hi, hj, run⟩ := mem_runs.mp h
    obtain ⟨hi', hj', run'⟩ := mem_runs.mp h'
    have coordinates := congrArg g.coordinates same
    simp only [coordinates_positionAt hi hj, coordinates_positionAt hi' hj', Prod.mk.injEq]
      at coordinates
    obtain ⟨rfl, rfl, last⟩ := coordinates
    have nonempty := run.nonempty
    have nonempty' := run'.nonempty
    obtain rfl : bottom = bottom' := by omega
    rw [Nat.le_antisymm (run.top_le run') (run'.top_le run)]
  · intro p hp
    obtain ⟨member, alone⟩ := Grid.mem_lowest.mp hp
    obtain ⟨hi, hj, _⟩ := coordinates_lt (lt_size_of_mem member)
    rw [← g.positionAt_coordinates p] at member alone
    rw [← positionAt_succ] at alone
    obtain ⟨top, run⟩ := exists_isRun (isActive_iff_mem.mpr member)
      (.inr (isActive_eq_false_iff.mpr alone))
    refine ⟨((p % g.nx, p % g.layer / g.nx), top, p / g.layer + 1),
      mem_runs.mpr ⟨hi, hj, run⟩, ?_⟩
    exact g.positionAt_coordinates p

/-- There are as many connections as positions of cells with a cell directly below. -/
theorem length_verticalConnections (g : Grid) :
    g.verticalConnections.length = g.globalCells.countP g.covers := by
  rw [verticalConnections_eq, List.length_filterMap_eq_countP, List.countP_filter]
  refine List.countP_congr fun p hp => ?_
  have upper : ∃ c, g.globalCells[c]? = some p := List.mem_iff_getElem?.mp hp
  rw [Bool.and_eq_true, Option.isSome_iff_exists, covers, decide_eq_true_eq, decide_eq_true_eq,
    List.mem_iff_getElem?]
  simp only [Prod.exists, pairBelow?_eq_some_iff]
  constructor
  · rintro ⟨⟨_, l, _, lower⟩, _⟩
    exact ⟨l, lower⟩
  · rintro ⟨l, lower⟩
    obtain ⟨u, upper⟩ := upper
    have inside := lt_size_of_mem (List.mem_of_getElem? lower)
    exact ⟨⟨u, l, upper, lower⟩, not_last_of_below inside⟩

/-- Every cell has a cell directly below, or is the lowest one of a run. -/
theorem length_verticalConnections_add_card_runs (g : Grid) :
    g.verticalConnections.length + g.runs.card = g.active.count true := by
  have alone : g.lowest.card = g.globalCells.countP fun p => !g.covers p := by
    rw [lowest, List.toFinset_card_of_nodup (g.nodup_globalCells.filter _),
      List.countP_eq_length_filter]
  have cells : g.globalCells.length = g.active.count true := length_truePositions 0 g.active
  rw [length_verticalConnections, card_runs, alone, ← cells,
    List.length_eq_countP_add_countP g.covers]
  simp

/-- A hole parts a column of four into a run of two and a run of one. -/
example : runs ⟨1, 1, 4, [true, true, false, true], by decide, by decide, by decide, rfl⟩ =
    {((0, 0), (0, 2)), ((0, 0), (3, 4))} := by decide

end Runs

theorem connectsNeighbours_placeColumns (g : Grid) : g.ConnectsNeighbours g.placeColumns :=
  ⟨fun _ _ => mem_verticalConnections_iff_neighbours, g.nodup_verticalConnections,
    g.length_verticalConnections_add_card_runs⟩

variable {nx ny nz : Nat} {mask : List Bool}

/-- In a box of positive dimensions with any mask, the vertical connections join the neighbours in
the columns that are extracted, and they are fewer than the active positions by the number of
runs. -/
theorem extract_connectsNeighbours (hx : 1 ≤ nx) (hy : 1 ≤ ny) (hz : 1 ≤ nz)
    (length : mask.length = nx * ny * nz) :
    ∃ g columns e, read (.int nx) (.int ny) (.int nz) (some (.ofFlags mask)) = .ok g ∧
      (g.nx = nx ∧ g.ny = ny ∧ g.nz = nz ∧ g.active = mask) ∧
      g.topology.extract.outcome = .ok e ∧
      e.columns = columns.map .flat ∧
      g.ConnectsNeighbours columns := by
  obtain ⟨g, made, rfl, rfl, rfl, rfl⟩ := read_ofFlags hx hy hz length
  exact ⟨g, g.placeColumns, _, made, ⟨rfl, rfl, rfl, rfl⟩, g.outcome_extract_topology, rfl,
    g.connectsNeighbours_placeColumns⟩

/-- A box of two places on three layers: a run of two cells, two runs of one cell, and no
connection across the hole between them. -/
theorem extract_connectsNeighbours_hole :
    (1 ≤ 2 ∧ 1 ≤ 1 ∧ 1 ≤ 3 ∧ [true, true, true, false, false, true].length = 2 * 1 * 3) ∧
    ∃ g columns e, read (.int 2) (.int 1) (.int 3)
        (some (.ofFlags [true, true, true, false, false, true])) = .ok g ∧
      (g.nx = 2 ∧ g.ny = 1 ∧ g.nz = 3 ∧ g.active = [true, true, true, false, false, true]) ∧
      g.topology.extract.outcome = .ok e ∧
      e.columns = columns.map .flat ∧
      g.ConnectsNeighbours columns :=
  ⟨by decide, extract_connectsNeighbours (by decide) (by decide) (by decide) (by decide)⟩

end Grid

end Reservoir
