import Reservoir.Proofs.Grid.HeightMap

/-!
# Maps of boxes and of given topologies

The columns that are extracted of a box, or of a topology of positive integer dimensions, are
drawn on a map that shows the number of active positions, or of cells, at every point. There is no
such map of `2 ^ 60` points or of so many layers that no double holds their number, and beyond
`2 ^ 53` layers the strongest colour may be that of another number.
-/

namespace Reservoir

namespace Grid

theorem isBox_topology (g : Grid) : g.topology.IsBox :=
  ⟨Int.ofNat_lt.mpr g.nx_pos, Int.ofNat_lt.mpr g.ny_pos, Int.ofNat_lt.mpr g.nz_pos⟩

theorem mapBase_eq (g : Grid) : g.mapBase = g.topology.mapBase .signed := by
  rw [mapBase, Topology.mapBase, topology, List.map_map]
  rfl

/-- The map of a box with any mask is drawn from its columns. -/
theorem draws_heightMap (g : Grid) :
    HeightMap.Draws g.topology (g.placeColumns.map .flat) g.heightMap := by
  have drawn : g.heightMap =
      (HeightMap.draw (g.topology.mapBase .signed) MapColumn.ofBlock
        (g.placeColumns.map .flat)).mapError .input := by
    rw [heightMap, Topology.outcome_extract, g.columns_topology, mapBase_eq]
    rfl
  rw [drawn]
  exact g.topology.draws_columns g.isBox_topology g.columns_topology fun _ => rfl

section Active

variable {g : Grid} {i j : Nat}

theorem mem_positionsAt_topology (hi : i < g.nx) (hj : j < g.ny) {z : Int} :
    z ∈ g.topology.positionsAt (i + j * g.nx) ↔
      ∃ k < g.nz, g.isActive i j k = true ∧ (g.positionAt i j k : Int) = z := by
  have place := place_lt_layer hi hj
  simp only [Topology.mem_positionsAt, isActive_iff_mem]
  constructor
  · rintro ⟨hz, below⟩
    obtain ⟨p, hp, rfl⟩ := List.mem_map.mp hz
    have depth := (coordinates_lt (lt_size_of_mem hp)).2.2
    have rest : p % g.layer = i + j * g.nx := by
      rw [layer_topology] at below
      exact Int.ofNat_inj.mp ((Int.ofNat_fmod p g.layer).trans below)
    have position : g.positionAt i j (p / g.layer) = p := by
      rw [positionAt, ← rest, Nat.mod_add_div']
    exact ⟨p / g.layer, depth, by rwa [position], by rw [position]; rfl⟩
  · rintro ⟨k, _, hp, rfl⟩
    refine ⟨List.mem_map.mpr ⟨_, hp, rfl⟩, ?_⟩
    rw [layer_topology, ← Int.ofNat_fmod, positionAt, Nat.add_mul_mod_self_right,
      Nat.mod_eq_of_lt place]

/-- The height at a point of the map of a box counts the active positions there. -/
theorem height_topology (hi : i < g.nx) (hj : j < g.ny) :
    g.topology.height (i + j * g.nx) =
      (List.range g.nz).countP fun k => g.isActive i j k := by
  have distinct : (g.topology.positionsAt (i + j * g.nx)).Nodup :=
    (Topology.inside_of_columns g.columns_topology).2.filter _
  have ascending : (((List.range g.nz).filter fun k => g.isActive i j k).map fun k =>
      (g.positionAt i j k : Int)).Nodup := by
    refine (List.nodup_range.filter _).map ?_
    intro k l same
    have same := Nat.add_left_cancel (Int.ofNat_inj.mp same)
    exact Nat.eq_of_mul_eq_mul_right g.layer_pos same
  have perm := (List.perm_ext_iff_of_nodup distinct ascending).mpr fun z => by
    rw [mem_positionsAt_topology hi hj]
    simp [and_assoc]
  rw [← Topology.length_positionsAt, perm.length_eq, List.length_map, List.countP_eq_length_filter]

/-- The map of a box shows the numbers of its active positions. -/
theorem image_heightMap (g : Grid) {m : HeightMap} (drawn : g.heightMap = .ok m) :
    m.image = (List.range g.ny).map fun j => (List.range g.nx).map fun i =>
      (List.range g.nz).countP fun k => g.isActive i j k := by
  rw [(g.draws_heightMap.shows m drawn).image]
  refine List.map_congr_left fun j hj => List.map_congr_left fun i hi => ?_
  rw [← g.topology.height_point g.isBox_topology (List.mem_range.mp hi)]
  exact height_topology (List.mem_range.mp hi) (List.mem_range.mp hj)

end Active

end Grid

namespace GivenTopology

/-- The map of a topology of positive integer dimensions that has columns. -/
theorem draws_ofCells {nx ny nz : Int} {cells : List Int} {connections : Option Datum}
    {columns : List (Block Nat)} (nx_pos : 1 ≤ nx) (ny_pos : 1 ≤ ny) (nz_pos : 1 ≤ nz)
    (found : (ofCells nx ny nz cells connections).columns = .ok columns) :
    HeightMap.Draws { nx, ny, nz, cells } columns
      (ofCells nx ny nz cells connections).heightMap := by
  obtain ⟨given, read, _⟩ := bind_eq_ok_iff.mp found
  obtain ⟨_, _, positions, _, pairs, rfl⟩ := of_read_eq_ok read
  rw [columns_of_read read] at found
  obtain ⟨lists, extracted, rfl⟩ := map_eq_ok_iff.mp found
  have extracted := mapError_eq_ok_iff.mp extracted
  have drawn : (ofCells nx ny nz cells connections).heightMap =
      (HeightMap.draw (Topology.mapBase { nx, ny, nz, cells, connections := pairs }
        (Datum.ofIntegers cells).sort) MapColumn.ofBlock (lists.map .flat)).mapError .input := by
    rw [heightMap, read]
    change (Topology.extract _).outcome.bind _ = _
    rw [Topology.outcome_extract, extracted]
    rfl
  rw [drawn]
  refine Topology.draws_of_connections
    (Topology.draws_columns ⟨nx_pos, ny_pos, nz_pos⟩ extracted ?_)
  intro some
  have nonempty : cells ≠ [] := by
    rintro rfl
    rw [Topology.columns_of_nil rfl] at extracted
    cases extracted
    exact some rfl
  rw [Datum.sort_ofIntegers nonempty positions]
  rfl

/-- Distinct cells inside dimensions of 64 bits, without connections, have columns. -/
theorem exists_columns_ofCells {nx ny nz : Int} {cells : List Int} (some : cells ≠ [])
    (first : Datum.InRange nx) (layer : Datum.InRange (nx * ny))
    (positions : ∀ g ∈ cells, Datum.InRange g)
    (inside : ∀ g ∈ cells, 0 ≤ g ∧ g < nx * ny * nz) (distinct : cells.Nodup) :
    ∃ columns, (ofCells nx ny nz cells none).columns = .ok columns := by
  have found : Topology.columns { nx, ny, nz, cells } = .ok _ :=
    (Topology.columns_eq_ok_iff some).mpr ⟨inside, distinct, rfl, rfl⟩
  have given : (ofIntegers nx ny nz cells none).columns = _ :=
    columns_ofIntegers first layer positions (by simp)
  rw [found] at given
  exact ⟨_, given⟩

/-- The first position alone has a column. -/
theorem exists_columns_single {nx nz : Nat} (first : Datum.InRange nx) (hx : 0 < nx)
    (hz : 0 < nz) : ∃ columns, (ofCells nx 1 nz [0] none).columns = .ok columns := by
  have size : (0 : Int) < nx * 1 * nz := by
    rw [Int.mul_one]
    exact Int.mul_pos (Int.ofNat_lt.mpr hx) (Int.ofNat_lt.mpr hz)
  refine exists_columns_ofCells (by decide) first ?_ (by decide) ?_ (by decide)
  · rwa [Int.mul_one]
  · intro g hg
    obtain rfl := List.mem_singleton.mp hg
    exact ⟨Int.le_refl 0, size⟩

/-- There are columns but no map of so many layers that no double holds their number. -/
theorem columns_and_not_heightMap_of_tall {k : Nat} (h : 1024 ≤ k) :
    (∃ columns, (ofCells 1 1 (2 ^ k : Nat) [0] none).columns = .ok columns) ∧
      ¬∃ m, (ofCells 1 1 (2 ^ k : Nat) [0] none).heightMap = .ok m := by
  have layers := Nat.two_pow_pos k
  have first : Datum.InRange (1 : Nat) := by decide
  obtain ⟨columns, found⟩ := exists_columns_single first Nat.one_pos layers
  refine ⟨⟨columns, found⟩, ?_⟩
  have draws := draws_ofCells (Int.le_refl 1) (Int.le_refl 1) (Int.ofNat_le.mpr layers) found
  have points : (1 : Int) * 1 < HeightMap.sizeLimit := by decide
  rintro ⟨m, drawn⟩
  cases drawn.symm.trans (draws.tall points (Number.ofInt?_two_pow h))

/-- There are columns but no map of so many points. -/
theorem columns_and_not_heightMap_of_wide {nx : Nat} (wide : 2 ^ 60 ≤ nx)
    (first : Datum.InRange nx) :
    (∃ columns, (ofCells nx 1 (1 : Nat) [0] none).columns = .ok columns) ∧
      ¬∃ m, (ofCells nx 1 (1 : Nat) [0] none).heightMap = .ok m := by
  obtain ⟨columns, found⟩ := exists_columns_single first (by omega) Nat.one_pos
  refine ⟨⟨columns, found⟩, ?_⟩
  have draws := draws_ofCells (by omega) (Int.le_refl 1) (Int.le_refl 1) found
  have points : HeightMap.sizeLimit ≤ (nx : Int) * 1 := by
    rw [Int.mul_one, HeightMap.sizeLimit]
    omega
  rintro ⟨m, drawn⟩
  cases drawn.symm.trans (draws.wide points)

/-- The strongest colour may be that of one layer less. -/
theorem limits_heightMap_succ :
    ∃ m, (ofCells 1 1 (2 ^ 53 + 1 : Nat) [0] none).heightMap = .ok m ∧
      m.limits = (0, 2 ^ 53) := by
  have first : Datum.InRange (1 : Nat) := by decide
  have layers : 0 < 2 ^ 53 + 1 := by decide
  obtain ⟨columns, found⟩ := exists_columns_single first Nat.one_pos layers
  have draws := draws_ofCells (Int.le_refl 1) (Int.le_refl 1) (Int.ofNat_le.mpr layers) found
  have read : Number.ofInt? (2 ^ 53 + 1 : Nat) = some (Float.ofNat (2 ^ 53 + 1)) :=
    Number.ofInt?_eq_some (by decide)
  obtain ⟨m, drawn⟩ := draws.made (by decide) _ read
  have shows := draws.shows m drawn
  have strongest := shows.strongest
  rw [read, Option.bind_some, Number.integerPart?_ofNat_succ] at strongest
  exact ⟨m, drawn, Prod.ext shows.weakest (Option.some.inj strongest).symm⟩

end GivenTopology

/-- The map of the columns of a box under any mask, and of a topology of positive integer
dimensions that has columns, shows the true heights of the columns. -/
theorem heightMap_shows_heights :
    (∀ g : Grid, ∃ columns,
      (g.topology.columns.mapError Fault.grid).map (fun columns => columns.map .flat) =
        .ok columns ∧
        HeightMap.Draws g.topology columns g.heightMap ∧
        ∀ m, g.heightMap = .ok m →
          m.image = (List.range g.ny).map fun j => (List.range g.nx).map fun i =>
            (List.range g.nz).countP fun k => g.isActive i j k) ∧
    ∀ (nx ny nz : Int) (cells : List Int) (connections : Option Datum)
      (columns : List (Block Nat)), 1 ≤ nx → 1 ≤ ny → 1 ≤ nz →
      (GivenTopology.ofCells nx ny nz cells connections).columns = .ok columns →
      HeightMap.Draws { nx, ny, nz, cells } columns
        (GivenTopology.ofCells nx ny nz cells connections).heightMap := by
  constructor
  · intro g
    refine ⟨_, ?_, g.draws_heightMap, fun m drawn => g.image_heightMap drawn⟩
    rw [g.columns_topology]
    rfl
  · intro nx ny nz cells connections columns nx_pos ny_pos nz_pos found
    exact GivenTopology.draws_ofCells nx_pos ny_pos nz_pos found

/-- A column of two cells with a gap between them, beside a column of one. -/
theorem heightMap_shows_heights_gap :
    ((1 : Int) ≤ 2 ∧ (1 : Int) ≤ 1 ∧ (1 : Int) ≤ 3 ∧
      (GivenTopology.ofCells 2 1 3 [4, 0, 1] none).columns = .ok [.flat [1, 0], .flat [2]]) ∧
    HeightMap.Draws { nx := 2, ny := 1, nz := 3, cells := [4, 0, 1] } [.flat [1, 0], .flat [2]]
      (GivenTopology.ofCells 2 1 3 [4, 0, 1] none).heightMap := by
  have found : (GivenTopology.ofCells 2 1 3 [4, 0, 1] none).columns =
      .ok [.flat [1, 0], .flat [2]] := by
    cbv
  exact ⟨⟨by decide, by decide, by decide, found⟩,
    heightMap_shows_heights.2 2 1 3 [4, 0, 1] none _ (by decide) (by decide) (by decide) found⟩

/-- One cell has a column whatever the dimensions, but there is no map of `2 ^ 1024` layers or of
`2 ^ 60` points, and the strongest colour for `2 ^ 53 + 1` layers is that of one layer less. -/
theorem not_heightMap_large :
    let given (nx nz : Nat) : GivenTopology := .ofCells nx 1 nz [0] none
    ((∃ columns, (given 1 (2 ^ 1024)).columns = .ok columns) ∧
      ¬∃ m, (given 1 (2 ^ 1024)).heightMap = .ok m) ∧
    ((∃ columns, (given (2 ^ 60) 1).columns = .ok columns) ∧
      ¬∃ m, (given (2 ^ 60) 1).heightMap = .ok m) ∧
    ∃ m, (given 1 (2 ^ 53 + 1)).heightMap = .ok m ∧ m.limits = (0, 2 ^ 53) := by
  intro given
  refine ⟨?_, ?_, ?_⟩
  · exact GivenTopology.columns_and_not_heightMap_of_tall (Nat.le_refl 1024)
  · exact GivenTopology.columns_and_not_heightMap_of_wide (Nat.le_refl _) (by decide)
  · exact GivenTopology.limits_heightMap_succ

end Reservoir
