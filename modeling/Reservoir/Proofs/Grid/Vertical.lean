import Reservoir.Proofs.Grid.Accepted
import Reservoir.Proofs.Grid.Columns
import Reservoir.Proofs.Grid.Numbering

/-!
# The vertical connections of a box

A pair of cells is connected when the second one stands one layer below the first, at the same
place. Connections ascend in both of their ends, so no cell is connected twice to either side,
and the connections of every grid are in single file.
-/

namespace Reservoir

/-- A connection between cells compares the coordinates of their positions. -/
theorem Topology.goesDown?_eq {t : Topology} {c : Nat × Nat} {p q : Int}
    (upper : t.cells[c.1]? = some p) (lower : t.cells[c.2]? = some q) :
    goesDown? (t.cells.map t.coordI).toArray (t.cells.map t.coordJ).toArray
        (t.cells.map t.coordK).toArray c =
      some (t.coordI p == t.coordI q && t.coordJ p == t.coordJ q &&
        decide (t.coordK p < t.coordK q)) := by
  simp [goesDown?, upper, lower]

namespace Grid

variable {g : Grid} {p c u l : Nat}

theorem getElem?_cells_topology (g : Grid) (c : Nat) :
    g.topology.cells[c]? = g.globalCells[c]?.map Int.ofNat :=
  List.getElem?_map

theorem cells_topology_of_globalCells (h : g.globalCells[c]? = some p) :
    g.topology.cells[c]? = some (p : Int) := by
  rw [getElem?_cells_topology, h]
  rfl

@[simp] theorem length_cells_topology (g : Grid) : g.topology.cells.length = g.cellCount :=
  List.length_map _

theorem layer_topology (g : Grid) : g.topology.layer = (g.layer : Int) :=
  (Int.natCast_mul g.nx g.ny).symm

theorem coordI_topology (g : Grid) (p : Nat) : g.topology.coordI p = ((p % g.nx : Nat) : Int) :=
  (Int.ofNat_fmod p g.nx).symm

theorem coordJ_topology (g : Grid) (p : Nat) :
    g.topology.coordJ p = ((p % g.layer / g.nx : Nat) : Int) := by
  rw [Topology.coordJ, layer_topology, ← Int.ofNat_fmod]
  exact (Int.ofNat_fdiv (p % g.layer) g.nx).symm

theorem coordK_topology (g : Grid) (p : Nat) :
    g.topology.coordK p = ((p / g.layer : Nat) : Int) := by
  rw [Topology.coordK, layer_topology]
  exact (Int.ofNat_fdiv p g.layer).symm

/-- The pair of cells at a position and directly below it. -/
def pairBelow? (g : Grid) (p : Nat) : Option (Nat × Nat) :=
  match g.cellNumbers[p]?, g.cellNumbers[p + g.layer]? with
  | some (some upper), some (some lower) => some (upper, lower)
  | _, _ => none

theorem verticalConnections_eq (g : Grid) :
    g.verticalConnections =
      (g.globalCells.filter fun p => decide (p / g.layer + 1 < g.nz)).filterMap g.pairBelow? := by
  simp only [verticalConnections, List.getElem?_toArray]
  rfl

theorem pairBelow?_eq_some_iff :
    g.pairBelow? p = some (u, l) ↔
      g.globalCells[u]? = some p ∧ g.globalCells[l]? = some (p + g.layer) := by
  rw [← getElem?_cellNumbers_iff, ← getElem?_cellNumbers_iff, pairBelow?]
  split
  · next upper lower => simp [upper, lower]
  · next other =>
    constructor
    · exact nofun
    · rintro ⟨upper, lower⟩
      exact absurd lower (other u l upper)

/-- A position below which there is another one is not in the last layer. -/
theorem not_last_of_below (h : p + g.layer < g.size) : p / g.layer + 1 < g.nz := by
  rw [← Nat.add_div_right p g.layer_pos]
  exact Nat.div_lt_of_lt_mul h

theorem mem_verticalConnections :
    (u, l) ∈ g.verticalConnections ↔
      ∃ p, g.globalCells[u]? = some p ∧ g.globalCells[l]? = some (p + g.layer) := by
  rw [verticalConnections_eq, List.mem_filterMap]
  simp only [pairBelow?_eq_some_iff]
  constructor
  · rintro ⟨p, _, pair⟩
    exact ⟨p, pair⟩
  · rintro ⟨p, upper, lower⟩
    refine ⟨p, List.mem_filter.mpr ⟨List.mem_of_getElem? upper, ?_⟩, upper, lower⟩
    have inside := lt_size_of_cellNumbers (getElem?_cellNumbers_iff.mpr lower)
    exact decide_eq_true (not_last_of_below inside)

/-- Connections ascend in both of their ends. -/
theorem pairwise_verticalConnections (g : Grid) :
    g.verticalConnections.Pairwise fun c d => c.1 < d.1 ∧ c.2 < d.2 := by
  rw [verticalConnections_eq, List.pairwise_filterMap]
  refine (g.pairwise_globalCells.filter _).imp ?_
  rintro p q less ⟨u, l⟩ hp ⟨u', l'⟩ hq
  obtain ⟨upper, lower⟩ := pairBelow?_eq_some_iff.mp hp
  obtain ⟨upper', lower'⟩ := pairBelow?_eq_some_iff.mp hq
  refine ⟨(lt_iff_of_globalCells upper upper').mp less, ?_⟩
  exact (lt_iff_of_globalCells lower lower').mp (Nat.add_lt_add_right less g.layer)

/-- Connected cells stand at one place, the lower one a layer below. -/
theorem goesDown?_of_mem {c : Nat × Nat} (h : c ∈ g.verticalConnections) :
    goesDown? (g.topology.cells.map g.topology.coordI).toArray
        (g.topology.cells.map g.topology.coordJ).toArray
        (g.topology.cells.map g.topology.coordK).toArray c = some true := by
  obtain ⟨p, upper, lower⟩ := mem_verticalConnections.mp h
  rw [Topology.goesDown?_eq (cells_topology_of_globalCells upper)
    (cells_topology_of_globalCells lower)]
  simp only [coordI_topology, coordJ_topology, coordK_topology]
  have place : (p + g.layer) % g.nx = p % g.nx := Nat.add_mul_mod_self_left p g.nx g.ny
  have below : (p + g.layer) / g.layer = p / g.layer + 1 := Nat.add_div_right p g.layer_pos
  have down : ((p / g.layer : Nat) : Int) < ((p / g.layer + 1 : Nat) : Int) :=
    Int.ofNat_lt.mpr (Nat.lt_succ_self _)
  rw [place, below, Nat.add_mod_right, decide_eq_true down]
  simp only [beq_self_eq_true, Bool.and_self]

/-- The connections of a grid are in single file. -/
theorem checkConnections_topology (g : Grid) : g.topology.checkConnections = .ok () := by
  have naturals : Adjacency.naturals
      (g.verticalConnections.map fun c => (Int.ofNat c.1, Int.ofNat c.2)) =
        g.verticalConnections := by
    simp [Adjacency.naturals, Function.comp_def]
  have ascend := g.pairwise_verticalConnections
  refine checkSingleFile_eq_ok_iff.mpr (.inr ?_)
  rw [naturals]
  refine ⟨?_, ?_, ?_, fun c hc => goesDown?_of_mem hc⟩
  · intro c hc
    obtain ⟨⟨u, l⟩, member, rfl⟩ := List.mem_map.mp hc
    obtain ⟨p, upper, lower⟩ := mem_verticalConnections.mp member
    have hu := (List.getElem?_eq_some_iff.mp upper).1
    have hl := (List.getElem?_eq_some_iff.mp lower).1
    rw [List.length_map, length_cells_topology, cellCount]
    simp [Adjacency.inside, hu, hl]
  · rw [List.Nodup, List.pairwise_map]
    exact ascend.imp fun less => Nat.ne_of_lt less.1
  · rw [List.Nodup, List.pairwise_map]
    exact ascend.imp fun less => Nat.ne_of_lt less.2

end Grid

end Reservoir
