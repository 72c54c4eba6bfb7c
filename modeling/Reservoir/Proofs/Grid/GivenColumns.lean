import Reservoir.Grid.Given
import Reservoir.Proofs.Datum.Plain
import Reservoir.Proofs.Grid.Columns

/-!
# Columns of a topology given by integers

Dimensions of any sign, positions and pairs of cells are read as they were written, and the
columns are then those of the topology they describe. Positions, cell numbers, the first
dimension and the number of positions in a layer have to be integers of 64 bits: beyond that
they are refused, however few cells there are.
-/

namespace Reservoir

namespace GivenTopology

/-- A topology of integer dimensions and positions, and of pairs of cells if there are any. -/
def ofIntegers (nx ny nz : Int) (cells : List Int) (connections : Option (List (Int × Int))) :
    GivenTopology where
  dimensions := [.int nx, .int ny, .int nz]
  cells := .ofIntegers cells
  connections := connections.map .ofPairs

/-- A topology of integer dimensions and positions, with connections given in any way, or none. -/
def ofCells (nx ny nz : Int) (cells : List Int) (connections : Option Datum) : GivenTopology where
  dimensions := [.int nx, .int ny, .int nz]
  cells := .ofIntegers cells
  connections := connections

/-- The report has no part in what is extracted. -/
theorem extraction_eq (t : GivenTopology) :
    t.extraction = t.read.bind fun cells => cells.extract.outcome := by
  rw [extraction, extract, Reported.outcome_bind, Reported.outcome_ofExcept]

theorem columns_eq_map_extraction (t : GivenTopology) :
    t.columns = t.extraction.map (·.columns) := by
  rw [columns, extraction_eq]
  cases t.read with
  | error e => rfl
  | ok cells =>
      change cells.extract.outcome.bind _ = cells.extract.outcome.map _
      cases cells.extract.outcome <;> rfl

variable {nx ny nz : Int} {cells : List Int} {connections : Option (List (Int × Int))}

theorem readDimensions_int (nx ny nz : Int) :
    readDimensions [.int nx, .int ny, .int nz] = .ok (nx, ny, nz) := rfl

theorem read_of_not_inside (positions : ∀ g ∈ cells, Datum.InRange g)
    (outside : ¬Topology.Inside { nx, ny, nz, cells, connections }) :
    (ofIntegers nx ny nz cells connections).read = .error (.grid .cellsOutside) := by
  have refused : Topology.checkInside { nx, ny, nz, cells } = .error .cellsOutside :=
    Topology.checkInside_of_not_inside outside
  simp only [GivenTopology.read, ofIntegers, readDimensions_int,
    Datum.integerBlock_ofIntegers positions, Block.entries_flat, refused, bind, Except.bind,
    Except.mapError]

/-- Cells inside the dimensions are read with their connections, which are left out if there
are no cells. -/
theorem read_of_inside (first : Datum.InRange nx) (layer : Datum.InRange (nx * ny))
    (positions : ∀ g ∈ cells, Datum.InRange g)
    (ends : ∀ ps ∈ connections, ∀ p ∈ ps, Datum.InRange p.1 ∧ Datum.InRange p.2)
    (inside : Topology.Inside { nx, ny, nz, cells, connections }) :
    (ofIntegers nx ny nz cells connections).read = .ok (.list
      { nx, ny, nz, cells, connections := if cells = [] then none else connections }) := by
  have accepted : Topology.checkInside { nx, ny, nz, cells } = .ok () :=
    Topology.checkInside_of_inside inside
  have size : Datum.bounded (Topology.layer { nx, ny, nz, cells }) = .ok (nx * ny) :=
    Datum.bounded_of_inRange layer
  simp only [GivenTopology.read, ofIntegers, readDimensions_int,
    Datum.integerBlock_ofIntegers positions, Block.entries_flat, accepted,
    Datum.bounded_of_inRange first, size, Block.length?_flat, bind, Except.bind, Except.mapError]
  cases connections with
  | none => simp [pure, Except.pure]
  | some ps =>
      by_cases none : cells = []
      · simp [none, pure, Except.pure]
      · simp [none, Datum.pairs_ofPairs (ends ps rfl), pure, Except.pure]

/-- What is read of a topology of integers is the list of its cells, all of 64 bits, with some
connections. Given connections are read only if there are cells. -/
theorem of_read_eq_ok {given : Option Datum} {found : GivenCells}
    (h : (ofCells nx ny nz cells given).read = .ok found) :
    Datum.InRange nx ∧ Datum.InRange (nx * ny) ∧ (∀ g ∈ cells, Datum.InRange g) ∧
      (cells ≠ [] → ∀ d ∈ given, ∃ pairs, d.pairs = .ok pairs) ∧
      ∃ connections, found = .list { nx, ny, nz, cells, connections } := by
  obtain ⟨dimensions, numbers, h⟩ := bind_eq_ok_iff.mp h
  cases mapError_eq_ok_iff.mp numbers
  obtain ⟨block, read, h⟩ := bind_eq_ok_iff.mp h
  have read := mapError_eq_ok_iff.mp read
  have positions := Datum.inRange_of_integerBlock read
  cases (Datum.integerBlock_ofIntegers positions).symm.trans read
  obtain ⟨_, _, h⟩ := bind_eq_ok_iff.mp h
  obtain ⟨_, first, h⟩ := bind_eq_ok_iff.mp h
  obtain ⟨_, layer, h⟩ := bind_eq_ok_iff.mp h
  obtain ⟨n, length, h⟩ := bind_eq_ok_iff.mp h
  cases mapError_eq_ok_iff.mp length
  refine ⟨Datum.inRange_of_bounded (mapError_eq_ok_iff.mp first),
    Datum.inRange_of_bounded (mapError_eq_ok_iff.mp layer), positions, ?_⟩
  cases given with
  | none =>
      cases h
      exact ⟨by simp, none, rfl⟩
  | some d =>
      by_cases count : cells.length = 0
      · simp only [ofCells, if_pos count] at h
        cases h
        exact ⟨fun nonempty => absurd (List.length_eq_zero_iff.mp count) nonempty, none, rfl⟩
      · simp only [ofCells, if_neg count] at h
        obtain ⟨pairs, read, h⟩ := bind_eq_ok_iff.mp h
        cases h
        refine ⟨?_, some pairs, rfl⟩
        intro _ _ member
        cases member
        exact ⟨pairs, mapError_eq_ok_iff.mp read⟩

/-- What is read of a topology has 64 bits. The connections are read only if there are cells. -/
theorem inRange_of_read_eq_ok {found : GivenCells}
    (h : (ofIntegers nx ny nz cells connections).read = .ok found) :
    Datum.InRange nx ∧ Datum.InRange (nx * ny) ∧ (∀ g ∈ cells, Datum.InRange g) ∧
      (cells ≠ [] → ∀ ps ∈ connections, ∀ p ∈ ps, Datum.InRange p.1 ∧ Datum.InRange p.2) := by
  have h : (ofCells nx ny nz cells (connections.map .ofPairs)).read = .ok found := h
  obtain ⟨first, layer, positions, given, _⟩ := of_read_eq_ok h
  refine ⟨first, layer, positions, ?_⟩
  intro nonempty ps hps
  obtain ⟨_, pairs⟩ := given nonempty (.ofPairs ps) (Option.mem_map_of_mem _ hps)
  exact Datum.inRange_of_pairs pairs

/-- What is read of a topology with cells has 64 bits. -/
theorem inRange_of_read (nonempty : cells ≠ []) {found : GivenCells}
    (h : (ofIntegers nx ny nz cells connections).read = .ok found) :
    Datum.InRange nx ∧ Datum.InRange (nx * ny) ∧ (∀ g ∈ cells, Datum.InRange g) ∧
      ∀ ps ∈ connections, ∀ p ∈ ps, Datum.InRange p.1 ∧ Datum.InRange p.2 := by
  obtain ⟨first, layer, positions, ends⟩ := inRange_of_read_eq_ok h
  exact ⟨first, layer, positions, ends nonempty⟩

/-- Without cells the connections make no difference. -/
theorem read_of_nil (nx ny nz : Int) (connections : Option (List (Int × Int))) :
    (ofIntegers nx ny nz [] connections).read = (ofIntegers nx ny nz [] none).read := by
  cases connections <;> rfl

/-- From a topology given by integers of 64 bits the columns of the topology it describes are
extracted. -/
theorem extraction_ofIntegers (first : Datum.InRange nx) (layer : Datum.InRange (nx * ny))
    (positions : ∀ g ∈ cells, Datum.InRange g)
    (ends : ∀ ps ∈ connections, ∀ p ∈ ps, Datum.InRange p.1 ∧ Datum.InRange p.2) :
    (ofIntegers nx ny nz cells connections).extraction =
      ((Topology.columns { nx, ny, nz, cells, connections }).mapError .grid).map fun columns =>
        { columns := columns.map .flat, index := Topology.numberOfColumn columns } := by
  rw [extraction_eq]
  by_cases inside : Topology.Inside { nx, ny, nz, cells, connections }
  · rw [read_of_inside first layer positions ends inside]
    change (Topology.extract _).outcome = _
    rw [Topology.outcome_extract]
    by_cases none : cells = []
    · rw [Topology.columns_of_nil none, Topology.columns_of_nil none]
    · simp only [if_neg none]
  · rw [read_of_not_inside positions inside, Topology.columns_of_not_inside inside]
    rfl

/-- A topology given by integers of 64 bits has the columns of the topology it describes. -/
theorem columns_ofIntegers (first : Datum.InRange nx) (layer : Datum.InRange (nx * ny))
    (positions : ∀ g ∈ cells, Datum.InRange g)
    (ends : ∀ ps ∈ connections, ∀ p ∈ ps, Datum.InRange p.1 ∧ Datum.InRange p.2) :
    (ofIntegers nx ny nz cells connections).columns =
      ((Topology.columns { nx, ny, nz, cells, connections }).mapError .grid).map
        fun columns => columns.map .flat := by
  rw [columns_eq_map_extraction, extraction_ofIntegers first layer positions ends]
  cases Topology.columns { nx, ny, nz, cells, connections } <;> rfl

end GivenTopology

/-- What the extraction of columns finds. Cells that lie inside the dimensions, at distinct
positions and under connections that are accepted, are partitioned; all else is refused as a
fault of the grid. Unless there are no cells, or one lies outside, the divisors are not zero. -/
structure Topology.Extracts (t : Topology) (found : Except Fault (List (Block Nat))) : Prop where
  empty : t.cells = [] → found = .ok []
  ok_iff : t.cells ≠ [] →
    ((∃ columns, found = .ok columns) ↔
      t.Inside ∧ t.cells.Nodup ∧ t.checkConnections = .ok ())
  kind : ∀ e, found = .error e → e.kind = .grid
  divisors : t.cells = [] ∨ found = .error (.grid .cellsOutside) ∨ t.nx ≠ 0 ∧ t.layer ≠ 0
  partition : ∀ columns, found = .ok columns →
    ∃ lists, columns = lists.map .flat ∧ t.Partition lists

/-- The extraction finds what it should on every topology. -/
theorem Topology.extracts_columns (t : Topology) :
    t.Extracts ((t.columns.mapError .grid).map fun columns => columns.map .flat) := by
  refine ⟨?_, ?_, ?_, ?_, ?_⟩
  · intro cells
    rw [columns_of_nil cells]
    rfl
  · intro cells
    simp only [map_eq_ok_iff, mapError_eq_ok_iff]
    constructor
    · rintro ⟨_, columns, found, _⟩
      obtain ⟨inside, distinct, connected, _⟩ := (columns_eq_ok_iff cells).mp found
      exact ⟨inside, distinct, connected⟩
    · rintro ⟨inside, distinct, connected⟩
      exact ⟨_, _, (columns_eq_ok_iff cells).mpr ⟨inside, distinct, connected, rfl⟩, rfl⟩
  · intro e failed
    cases found : t.columns with
    | error d =>
        rw [found] at failed
        cases failed
        exact kind_of_columns found
    | ok columns =>
        rw [found] at failed
        cases failed
  · by_cases cells : t.cells = []
    · exact .inl cells
    · by_cases inside : t.Inside
      · exact .inr (.inr (divisors_ne_zero inside cells))
      · rw [columns_of_not_inside inside]
        exact .inr (.inl rfl)
  · intro columns h
    obtain ⟨lists, found, rfl⟩ := map_eq_ok_iff.mp h
    exact ⟨lists, rfl, partition_of_columns (mapError_eq_ok_iff.mp found)⟩

namespace GivenTopology

variable {nx ny nz : Int} {cells : List Int} {connections : Option (List (Int × Int))}

/-- Dimensions of any sign, any positions and any pairs of cells, as far as the integers that
are computed with have 64 bits, give the vertical partition or a fault of the grid. -/
theorem extracts_ofIntegers (first : Datum.InRange nx) (layer : Datum.InRange (nx * ny))
    (positions : ∀ g ∈ cells, Datum.InRange g)
    (ends : ∀ ps ∈ connections, ∀ p ∈ ps, Datum.InRange p.1 ∧ Datum.InRange p.2) :
    Topology.Extracts { nx, ny, nz, cells, connections }
      (ofIntegers nx ny nz cells connections).columns := by
  rw [columns_ofIntegers first layer positions ends]
  exact Topology.extracts_columns _

/-- Two columns with a gap between the layers of one of them, under dimensions below zero. -/
theorem extracts_ofIntegers_negative :
    (Datum.InRange (-2) ∧ Datum.InRange (-2 * 1) ∧ (∀ g ∈ [5, 0, 1], Datum.InRange g) ∧
      ∀ ps ∈ some [((0 : Int), (2 : Int))], ∀ p ∈ ps, Datum.InRange p.1 ∧ Datum.InRange p.2) ∧
    Topology.Extracts { nx := -2, ny := 1, nz := -3, cells := [5, 0, 1],
                        connections := some [(0, 2)] }
      (ofIntegers (-2) 1 (-3) [5, 0, 1] (some [(0, 2)])).columns := by
  have first : Datum.InRange (-2) := by decide
  have layer : Datum.InRange (-2 * 1) := by decide
  have positions : ∀ g ∈ [5, 0, 1], Datum.InRange g := by decide
  have ends : ∀ ps ∈ some [((0 : Int), (2 : Int))], ∀ p ∈ ps,
      Datum.InRange p.1 ∧ Datum.InRange p.2 := by decide
  exact ⟨⟨first, layer, positions, ends⟩, extracts_ofIntegers first layer positions ends⟩

/-- One cell inside the dimensions, without connections, is refused for a dimension of more than
64 bits, and not as a fault of the grid. -/
theorem not_extracts_ofIntegers_wide :
    ¬Topology.Extracts { nx := 100000000000000000000, ny := 1, nz := 1, cells := [0] }
      (ofIntegers 100000000000000000000 1 1 [0] none).columns := by
  intro extracts
  have refused : (ofIntegers 100000000000000000000 1 1 [0] none).columns =
      .error (.input .tooLarge) := rfl
  have kind := extracts.kind _ refused
  cases kind

end GivenTopology

end Reservoir
