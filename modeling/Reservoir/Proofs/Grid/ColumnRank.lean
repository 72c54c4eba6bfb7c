import Mathlib.Data.Finset.Card
import Mathlib.Data.Finset.Dedup
import Reservoir.Proofs.Grid.ColumnIndex
import Reservoir.Proofs.Grid.GivenColumns

/-!
# The number of a column as a rank

The columns of a partition stand at distinct places, in ascending order. The number of a column
is therefore the number of places to the left of its own, which can be told from the cells
alone: it counts the places of cells that are less than the place of the cell in question.

`Topology.Indexes` relates the numbers of the columns to the columns themselves, for any way of
finding both.
-/

namespace Reservoir

/-- Of the values of a strictly ascending list, as many are less than an entry as stand before
it. -/
theorem card_filter_lt_of_pairwise {xs : List Int} (ascending : xs.Pairwise (· < ·)) {m : Nat}
    {x : Int} (h : xs[m]? = some x) : (xs.toFinset.filter (· < x)).card = m := by
  obtain ⟨hm, rfl⟩ := List.getElem?_eq_some_iff.mp h
  have order := List.pairwise_iff_getElem.mp ascending
  have before : xs.toFinset.filter (· < xs[m]) = (xs.take m).toFinset := by
    ext y
    rw [Finset.mem_filter, List.mem_toFinset, List.mem_toFinset, List.mem_take_iff_getElem]
    constructor
    · rintro ⟨member, less⟩
      obtain ⟨k, hk, rfl⟩ := List.mem_iff_getElem.mp member
      have earlier : k < m := by
        by_contra later
        rcases Nat.eq_or_lt_of_le (Nat.not_lt.mp later) with rfl | greater
        · exact absurd less (Int.lt_irrefl _)
        · exact absurd less (Int.not_lt.mpr (Int.le_of_lt (order m k hm hk greater)))
      exact ⟨k, by omega, rfl⟩
    · rintro ⟨k, hk, rfl⟩
      exact ⟨List.getElem_mem _, order k m (by omega) hm (by omega)⟩
  have distinct : (xs.take m).Nodup :=
    (ascending.imp Int.ne_of_lt).sublist (List.take_sublist m xs)
  rw [before, List.toFinset_card_of_nodup distinct, List.length_take, Nat.min_eq_left hm.le]

namespace Topology

variable {t : Topology} {columns : List (List Nat)} {column : List Nat} {c : Nat}

/-- The place of a column is that of its first cell. -/
def columnPlace (t : Topology) (column : List Nat) : Int :=
  (t.position (column.headD 0)).fmod t.layer

namespace Partition

theorem columnPlace_eq (h : t.Partition columns) (hcolumn : column ∈ columns) (hc : c ∈ column) :
    t.columnPlace column = (t.position c).fmod t.layer := by
  cases column with
  | nil => cases hc
  | cons first rest => exact h.aligned _ hcolumn first List.mem_cons_self c hc

theorem pairwise_columnPlace (h : t.Partition columns) :
    (columns.map t.columnPlace).Pairwise (· < ·) := by
  rw [List.pairwise_map]
  refine h.ascending.imp_of_mem ?_
  intro a b ha hb apart
  have first := List.head_mem (h.nonempty a ha)
  have second := List.head_mem (h.nonempty b hb)
  rw [h.columnPlace_eq ha first, h.columnPlace_eq hb second]
  exact apart _ first _ second

/-- The columns stand at the places of the cells. -/
theorem mem_columnPlace_iff (h : t.Partition columns) {z : Int} :
    z ∈ columns.map t.columnPlace ↔ z ∈ t.cells.map (·.fmod t.layer) := by
  rw [List.mem_map, List.mem_map]
  constructor
  · rintro ⟨column, hcolumn, rfl⟩
    have first := List.head_mem (h.nonempty column hcolumn)
    refine ⟨t.position (column.head (h.nonempty column hcolumn)), ?_,
      (h.columnPlace_eq hcolumn first).symm⟩
    exact List.mem_of_getElem? (getElem?_cells (h.lt_length hcolumn first))
  · rintro ⟨g, hg, rfl⟩
    obtain ⟨c, hc, rfl⟩ := List.mem_iff_getElem.mp hg
    obtain ⟨column, hcolumn, member⟩ := h.exists_column hc
    exact ⟨column, hcolumn, by rw [h.columnPlace_eq hcolumn member, position_eq_getElem hc]⟩

/-- The number of the column that a cell is in counts the places before the place of the cell. -/
theorem number_eq_card (h : t.Partition columns) {m : Nat} (at_m : columns[m]? = some column)
    (hc : c ∈ column) :
    m = ((t.cells.map (·.fmod t.layer)).toFinset.filter
      (· < (t.position c).fmod t.layer)).card := by
  have places : (t.cells.map (·.fmod t.layer)).toFinset = (columns.map t.columnPlace).toFinset := by
    ext z
    rw [List.mem_toFinset, List.mem_toFinset, h.mem_columnPlace_iff]
  have place : (columns.map t.columnPlace)[m]? = some ((t.position c).fmod t.layer) := by
    rw [List.getElem?_map, at_m, Option.map_some, h.columnPlace_eq (List.mem_of_getElem? at_m) hc]
  rw [places, card_filter_lt_of_pairwise h.pairwise_columnPlace place]

end Partition

/-- Numbers of columns, one for every cell. They tell each cell the column that it is in, which
comes after as many columns as there are places before the place of the cell. -/
structure NumbersColumns (t : Topology) (columns : List (List Nat)) (numbers : List Int) :
    Prop where
  length : numbers.length = t.cells.length
  assigned : -1 ∉ numbers
  number_iff : ∀ c m : Nat,
    numbers[c]? = some (m : Int) ↔ ∃ column, columns[m]? = some column ∧ c ∈ column
  rank : ∀ c < t.cells.length, numbers[c]? =
    some (((t.cells.map (·.fmod t.layer)).toFinset.filter
      (· < (t.position c).fmod t.layer)).card : Int)

/-- The numbers that are written at the cells of a partition number its columns. -/
theorem Partition.numbersColumns (h : t.Partition columns) :
    t.NumbersColumns columns (numberOfColumn columns) := by
  refine ⟨?_, ?_, ?_, ?_⟩
  · rw [length_numberOfColumn, h.perm.length_eq, List.length_range]
  · intro unassigned
    obtain ⟨c, hc⟩ := List.mem_iff_getElem?.mp unassigned
    obtain ⟨m, _, _, _, number⟩ := h.getElem?_numberOfColumn_iff.mp hc
    omega
  · intro c m
    rw [h.getElem?_numberOfColumn_iff]
    constructor
    · rintro ⟨m', column, at_m, hc, same⟩
      obtain rfl := Int.ofNat_inj.mp same
      exact ⟨column, at_m, hc⟩
    · rintro ⟨column, at_m, hc⟩
      exact ⟨m, column, at_m, hc, rfl⟩
  · intro c hc
    obtain ⟨column, hcolumn, member⟩ := h.exists_column hc
    obtain ⟨m, at_m⟩ := List.mem_iff_getElem?.mp hcolumn
    rw [← h.number_eq_card at_m member]
    exact h.getElem?_numberOfColumn_iff.mpr ⟨m, column, at_m, member, rfl⟩

/-- What is found of the numbers of the columns. It fails as the extraction of the columns fails,
and numbers those that are extracted otherwise. -/
structure Indexes (t : Topology) (columns : Except Fault (List (Block Nat)))
    (index : Except Fault (List Int)) : Prop where
  error_iff : ∀ e, index = .error e ↔ columns = .error e
  numbers : ∀ found, columns = .ok found → ∃ lists numbers, found = lists.map .flat ∧
    index = .ok numbers ∧ t.NumbersColumns lists numbers

/-- Whether numbers are those of the columns does not depend on connections. -/
theorem Indexes.of_connections {found : Except Fault (List (Block Nat))}
    {index : Except Fault (List Int)} {nx ny nz : Int} {cells : List Int}
    {connections : Option (List (Int × Int))}
    (h : Indexes { nx, ny, nz, cells, connections } found index) :
    Indexes { nx, ny, nz, cells } found index := by
  refine ⟨h.error_iff, ?_⟩
  intro columns extracted
  obtain ⟨lists, numbers, flat, indexed, numbered⟩ := h.numbers columns extracted
  exact ⟨lists, numbers, flat, indexed, numbered.length, numbered.assigned, numbered.number_iff,
    numbered.rank⟩

/-- The numbers of the columns of a topology are found with the columns. -/
theorem indexes_columnIndex (t : Topology) :
    t.Indexes ((t.columns.mapError .grid).map fun columns => columns.map .flat)
      (t.columnIndex.mapError .grid) := by
  rw [columnIndex]
  cases found : t.columns with
  | error e =>
      constructor
      · intro d
        change Except.error _ = _ ↔ Except.error _ = _
        rw [Except.error.injEq, Except.error.injEq]
      · intro columns extracted
        cases extracted
  | ok columns =>
      constructor
      · intro d
        constructor <;> intro failed <;> cases failed
      · intro lists extracted
        cases extracted
        exact ⟨columns, numberOfColumn columns, rfl, rfl,
          (partition_of_columns found).numbersColumns⟩

end Topology

namespace GivenTopology

theorem columns_of_read {given : GivenTopology} {t : Topology} (h : given.read = .ok (.list t)) :
    given.columns = (t.columns.mapError .grid).map fun columns => columns.map .flat := by
  rw [columns, h]
  change t.extract.outcome.bind _ = _
  rw [Topology.outcome_extract]
  cases t.columns <;> rfl

/-- The numbers of the columns are found with the columns however the connections are given. -/
theorem indexes_ofCells (nx ny nz : Int) (cells : List Int) (connections : Option Datum) :
    Topology.Indexes { nx, ny, nz, cells } (ofCells nx ny nz cells connections).columns
      (ofCells nx ny nz cells connections).columnIndex := by
  cases read : (ofCells nx ny nz cells connections).read with
  | error e =>
      have failed : (ofCells nx ny nz cells connections).columns = .error e := by
        rw [columns, read]
        rfl
      have unindexed : (ofCells nx ny nz cells connections).columnIndex = .error e := by
        rw [columnIndex, read]
        rfl
      rw [failed, unindexed]
      constructor
      · intro d
        rw [Except.error.injEq, Except.error.injEq]
      · intro columns extracted
        cases extracted
  | ok found =>
      obtain ⟨_, _, _, _, pairs, rfl⟩ := of_read_eq_ok read
      rw [columns_of_read read, columnIndex, read]
      have indexes := Topology.indexes_columnIndex { nx, ny, nz, cells, connections := pairs }
      exact indexes.of_connections

end GivenTopology

/-- The numbers of the columns of a box and of a topology of integers, whatever their dimensions,
are found with the columns and tell each cell its column. -/
theorem columnIndex_inverts_columns :
    (∀ g : Grid, g.topology.Indexes
      ((g.topology.columns.mapError .grid).map fun columns => columns.map .flat)
      (g.topology.columnIndex.mapError .grid)) ∧
    ∀ (nx ny nz : Int) (cells : List Int) (connections : Option Datum),
      Topology.Indexes { nx, ny, nz, cells }
        (GivenTopology.ofCells nx ny nz cells connections).columns
        (GivenTopology.ofCells nx ny nz cells connections).columnIndex :=
  ⟨fun g => g.topology.indexes_columnIndex, GivenTopology.indexes_ofCells⟩

end Reservoir
