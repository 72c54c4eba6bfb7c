import Reservoir.Proofs.Grid.BoxColumns

/-!
# The vertical connections of a box, one by one

The connections of a box are found from the positions of its cells, all at once. They are what
plain loops over the layers, the rows and the places of a row find that ask at every position, and
at the one below it, for the cell: `Grid.askConnections`, in this order.

As the connections ascend in both of their ends, each of them is an entry of its own in the matrix
of counts, alone in its row and in its column, and the lower cell has the greater number.
-/

namespace Reservoir

namespace Grid

/-- The cells at two positions one below the other, asked for one by one. -/
def askPair (g : Grid) (i j k : Nat) : Except InputFault (Int × Int) := do
  let upper ← g.cellAt i j k
  let lower ← g.cellAt i j (k + 1 : Nat)
  pure (upper, lower)

/-- The pairs of cells one below the other, layer by layer and row by row. -/
def askConnections (g : Grid) : Except InputFault (List (Int × Int)) := do
  let layers ← (List.range (g.nz - 1)).mapM fun k => (List.range g.ny).mapM fun j =>
    ((List.range g.nx).filter fun i => g.isActive i j k && g.isActive i j (k + 1)).mapM
      fun i => g.askPair i j k
  pure layers.flatten.flatten

/-- The connections of a box are those that plain loops ask for, and their matrix holds them one
by one above its diagonal. The matrix is made as that of any list of connections, which refuses
cells that there are not; and what is looked up below a position that is not on the last layer is
a position of the box. -/
structure ListsConnections (g : Grid) : Prop where
  asked : g.askConnections = .ok (g.verticalConnections.map fun c => ((c.1 : Int), (c.2 : Int)))
  inside : ∀ p ∈ g.globalCells, p / g.layer + 1 < g.nz → p + g.layer < g.active.length
  made : Adjacency.ofConnections
    (g.verticalConnections.map fun c => ((c.1 : Int), (c.2 : Int))) (some g.cellCount) =
      .ok g.verticalAdjacency
  size : g.verticalAdjacency.size = g.cellCount
  mem_entries : ∀ u l n, ((u, l), n) ∈ g.verticalAdjacency.entries ↔
    (u, l) ∈ g.verticalConnections ∧ n = 1
  rows : (g.verticalAdjacency.entries.map (·.1.1)).Nodup
  columns : (g.verticalAdjacency.entries.map (·.1.2)).Nodup
  above : ∀ e ∈ g.verticalAdjacency.entries, e.1.1 < e.1.2 ∧ e.1.2 < g.cellCount

variable {g : Grid} {p u l i j k : Nat}

section Loops

/-- Loops over the rows and over the places of a row, of which some are left out. -/
theorem flatten_filterMap_range {α : Type} (f : Nat → Option α) (m n : Nat) :
    ((List.range m).map fun j => (List.range n).filterMap fun i => f (i + j * n)).flatten =
      (List.range (n * m)).filterMap f := by
  have all := congrArg (List.filterMap id) (flatten_map_range f m n)
  simpa [List.filterMap_flatten, Function.comp_def] using all

/-- Positions above the last layer. -/
theorem lt_upperSize_iff : p < g.layer * (g.nz - 1) ↔ p / g.layer + 1 < g.nz := by
  rw [Nat.mul_comm, ← Nat.div_lt_iff_lt_mul g.layer_pos]
  generalize p / g.layer = k
  omega

/-- The connections are looked for at all positions above the last layer. -/
theorem verticalConnections_eq_range (g : Grid) :
    g.verticalConnections = (List.range (g.layer * (g.nz - 1))).filterMap g.pairBelow? := by
  have uppers : (g.globalCells.filter fun p => decide (p / g.layer + 1 < g.nz)) =
      (List.range (g.layer * (g.nz - 1))).filter fun p => decide (p ∈ g.globalCells) := by
    apply List.SortedLT.eq_of_mem_iff
    · exact List.sortedLT_iff_pairwise.mpr (g.pairwise_globalCells.filter _)
    · exact List.sortedLT_iff_pairwise.mpr (List.pairwise_lt_range.filter _)
    · intro p
      rw [List.mem_filter, List.mem_filter, List.mem_range, decide_eq_true_eq, decide_eq_true_eq,
        lt_upperSize_iff, and_comm]
  rw [verticalConnections_eq, uppers, List.filterMap_filter]
  refine List.filterMap_congr fun p _ => ?_
  split
  · rfl
  · next noCell =>
    cases found : g.pairBelow? p with
    | none => rfl
    | some pair =>
        have upper := (pairBelow?_eq_some_iff.mp found).1
        exact absurd (decide_eq_true (List.mem_of_getElem? upper)) noCell

/-- At active positions one below the other the connection between their cells is found. -/
theorem askPair_of_active (hi : i < g.nx) (hj : j < g.ny) (hk : k + 1 < g.nz)
    (upper : g.isActive i j k = true) (lower : g.isActive i j (k + 1) = true) :
    ∃ pair, g.pairBelow? (g.positionAt i j k) = some pair ∧
      g.askPair i j k = .ok ((pair.1 : Int), (pair.2 : Int)) := by
  obtain ⟨u, _, at_u⟩ := exists_cell_of_active upper
  obtain ⟨l, _, at_l⟩ := exists_cell_of_active lower
  refine ⟨(u, l), pairBelow?_eq_some_iff.mpr ⟨at_u, ?_⟩, ?_⟩
  · rw [← positionAt_succ, at_l]
  · rw [askPair, cellAt_of_globalCells hi hj (by omega) at_u, cellAt_of_globalCells hi hj hk at_l]
    rfl

theorem pairBelow?_of_inactive (h : (g.isActive i j k && g.isActive i j (k + 1)) = false) :
    g.pairBelow? (g.positionAt i j k) = none := by
  cases found : g.pairBelow? (g.positionAt i j k) with
  | none => rfl
  | some pair =>
      obtain ⟨upper, lower⟩ := pairBelow?_eq_some_iff.mp found
      rw [← positionAt_succ] at lower
      rw [isActive_iff_mem.mpr (List.mem_of_getElem? upper),
        isActive_iff_mem.mpr (List.mem_of_getElem? lower)] at h
      cases h

/-- The loops find the connections, in their order. -/
theorem askConnections_eq (g : Grid) :
    g.askConnections = .ok (g.verticalConnections.map fun c => ((c.1 : Int), (c.2 : Int))) := by
  have layers : ((List.range (g.nz - 1)).mapM fun k => (List.range g.ny).mapM fun j =>
      ((List.range g.nx).filter fun i => g.isActive i j k && g.isActive i j (k + 1)).mapM
        fun i => g.askPair i j k) =
      .ok ((List.range (g.nz - 1)).map fun k => (List.range g.ny).map fun j =>
        (List.range g.nx).filterMap fun i =>
          (g.pairBelow? (i + j * g.nx + k * g.layer)).map
            fun c => ((c.1 : Int), (c.2 : Int))) := by
    refine mapM_eq_ok_map fun k hk => mapM_eq_ok_map fun j hj => mapM_filter_eq_ok ?_ ?_
    · intro i hi active
      rw [Bool.and_eq_true] at active
      have hk := List.mem_range.mp hk
      obtain ⟨pair, found, asked⟩ := askPair_of_active (List.mem_range.mp hi)
        (List.mem_range.mp hj) (by omega) active.1 active.2
      exact ⟨_, asked, congrArg (Option.map _) found⟩
    · intro i _ inactive
      exact congrArg (Option.map _) (pairBelow?_of_inactive inactive)
  have rows : ∀ k, ((List.range g.ny).map fun j => (List.range g.nx).filterMap fun i =>
      (g.pairBelow? (i + j * g.nx + k * g.layer)).map fun c => ((c.1 : Int), (c.2 : Int))).flatten =
      (List.range g.layer).filterMap fun s =>
        (g.pairBelow? (s + k * g.layer)).map fun c => ((c.1 : Int), (c.2 : Int)) :=
    fun k => flatten_filterMap_range (fun s => (g.pairBelow? (s + k * g.layer)).map _) _ _
  rw [askConnections, layers]
  refine congrArg Except.ok ?_
  rw [List.flatten_flatten, List.map_map]
  simp only [Function.comp_def, rows]
  rw [flatten_filterMap_range (fun p => (g.pairBelow? p).map _), verticalConnections_eq_range,
    List.map_filterMap]

end Loops

section Matrix

/-- Connections lead down to cells with greater numbers. -/
theorem lt_of_mem_verticalConnections (h : (u, l) ∈ g.verticalConnections) :
    u < l ∧ l < g.cellCount := by
  obtain ⟨p, upper, lower⟩ := mem_verticalConnections.mp h
  refine ⟨(lt_iff_of_globalCells upper lower).mp ?_, (List.getElem?_eq_some_iff.mp lower).1⟩
  exact Nat.lt_add_of_pos_right g.layer_pos

theorem entries_verticalAdjacency (g : Grid) :
    g.verticalAdjacency.entries = g.verticalConnections.map fun c => (c, 1) := by
  apply tally_of_pairwise Adjacency.ascends_before
  refine g.pairwise_verticalConnections.imp ?_
  intro c d less
  exact Adjacency.before_iff.mpr (.inl less.1)

/-- The connections of a box are between its cells, so that their matrix can be made. -/
theorem ofConnections_verticalConnections (g : Grid) :
    Adjacency.ofConnections
      (g.verticalConnections.map fun c => ((c.1 : Int), (c.2 : Int))) (some g.cellCount) =
        .ok g.verticalAdjacency := by
  have naturals : Adjacency.naturals
      (g.verticalConnections.map fun c => ((c.1 : Int), (c.2 : Int))) =
        g.verticalConnections := by
    simp [Adjacency.naturals, Function.comp_def]
  have inside : (g.verticalConnections.map fun c => ((c.1 : Int), (c.2 : Int))).all
      (Adjacency.inside g.cellCount) = true := by
    rw [List.all_eq_true]
    intro c hc
    obtain ⟨⟨u, l⟩, member, rfl⟩ := List.mem_map.mp hc
    obtain ⟨less, last⟩ := lt_of_mem_verticalConnections member
    simp [Adjacency.inside]
    omega
  rw [Adjacency.ofConnections, naturals, Option.getD_some, if_pos ⟨Int.natCast_nonneg _, inside⟩]
  rfl

end Matrix

theorem listsConnections (g : Grid) : g.ListsConnections := by
  refine ⟨g.askConnections_eq, ?_, g.ofConnections_verticalConnections, rfl, ?_, ?_, ?_, ?_⟩
  · intro p _ above
    rw [← lt_upperSize_iff] at above
    have last : g.layer * (g.nz - 1) + g.layer = g.layer * g.nz := by
      rw [← Nat.mul_succ, Nat.succ_eq_add_one, Nat.sub_add_cancel g.nz_pos]
    rw [g.length_active]
    change p + g.layer < g.layer * g.nz
    omega
  · intro u l n
    rw [entries_verticalAdjacency, List.mem_map]
    constructor
    · rintro ⟨c, member, same⟩
      cases same
      exact ⟨member, rfl⟩
    · rintro ⟨member, rfl⟩
      exact ⟨_, member, rfl⟩
  · rw [entries_verticalAdjacency, List.map_map, List.Nodup, List.pairwise_map]
    exact g.pairwise_verticalConnections.imp fun less => Nat.ne_of_lt less.1
  · rw [entries_verticalAdjacency, List.map_map, List.Nodup, List.pairwise_map]
    exact g.pairwise_verticalConnections.imp fun less => Nat.ne_of_lt less.2
  · intro e he
    rw [entries_verticalAdjacency] at he
    obtain ⟨c, member, rfl⟩ := List.mem_map.mp he
    exact lt_of_mem_verticalConnections member

/-- In a box of positive dimensions, under a mask of as many values as it has positions, the
vertical connections are those that plain loops ask for, and their matrix holds them one by one
above its diagonal. -/
theorem read_listsConnections {nx ny nz : Nat} {mask : Datum} {active : List Bool} (hx : 1 ≤ nx)
    (hy : 1 ≤ ny) (hz : 1 ≤ nz) (given : mask.isNull = false) (flags : mask.flags = .ok active)
    (length : active.length = nx * ny * nz) :
    ∃ g, read (.int nx) (.int ny) (.int nz) (some mask) = .ok g ∧
      (g.nx = nx ∧ g.ny = ny ∧ g.nz = nz ∧ g.active = active) ∧ g.ListsConnections := by
  obtain ⟨g, made, rfl, rfl, rfl, rfl⟩ := read_of_flags hx hy hz given flags length
  exact ⟨g, made, ⟨rfl, rfl, rfl, rfl⟩, g.listsConnections⟩

/-- A box of two places on three layers, with a hole under the first cell of the second place. -/
theorem read_listsConnections_hole :
    let active := [true, true, true, false, true, true]
    (1 ≤ 2 ∧ 1 ≤ 1 ∧ 1 ≤ 3 ∧ (Datum.ofFlags active).isNull = false ∧
      (Datum.ofFlags active).flags = .ok active ∧ active.length = 2 * 1 * 3) ∧
    ∃ g, read (.int 2) (.int 1) (.int 3) (some (.ofFlags active)) = .ok g ∧
      (g.nx = 2 ∧ g.ny = 1 ∧ g.nz = 3 ∧ g.active = active) ∧ g.ListsConnections := by
  intro active
  have flags : (Datum.ofFlags active).flags = .ok active := Datum.flags_ofFlags active
  exact ⟨⟨by decide, by decide, by decide, rfl, flags, rfl⟩,
    read_listsConnections (by decide) (by decide) (by decide) rfl flags rfl⟩

end Grid

end Reservoir
