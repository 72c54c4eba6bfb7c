import Mathlib.Data.List.Nodup
import Mathlib.Data.List.SplitBy
import Reservoir.Grid.Topology
import Reservoir.Proofs.Grid.SingleFile

/-!
# Columns as a partition of the cells

The horizontal place and the layer of a position are its remainder and its quotient by the
positions in a layer, whatever the signs of the dimensions. `Topology.Partition` is the
vertical partition of the cells in these terms: columns of one remainder each, with ascending
quotients, and themselves with ascending remainders.

Cells are sorted by place and layer, so two cells of one position would be neighbours, and a
cut wherever the place changes puts all cells of a place into one column.
-/

namespace Reservoir

namespace Topology

variable (t : Topology)

/-- The logical position of a cell. -/
def position (c : Nat) : Int := t.cells.getD c 0

variable {t} in
theorem position_eq_getElem {c : Nat} (hc : c < t.cells.length) : t.position c = t.cells[c] := by
  rw [position, List.getD_eq_getElem?_getD, List.getElem?_eq_getElem hc]
  rfl

variable {t} in
theorem getElem?_cells {c : Nat} (hc : c < t.cells.length) :
    t.cells[c]? = some (t.position c) := by
  rw [position_eq_getElem hc, List.getElem?_eq_getElem hc]

theorem map_position_range : (List.range t.cells.length).map t.position = t.cells := by
  refine List.ext_getElem (by simp) fun c _ hc => ?_
  rw [List.getElem_map, List.getElem_range, position_eq_getElem hc]

/-- The place of a position is what is left of it beside whole layers. -/
theorem place_eq_fmod (g : Int) : t.place g = g.fmod t.layer := by
  have inner : (g.fmod t.layer).fmod t.nx = g.fmod t.nx :=
    Int.fmod_fmod_of_dvd g (Int.dvd_mul_right t.nx t.ny)
  have whole := Int.fmod_add_fdiv_mul (g.fmod t.layer) t.nx
  rw [inner] at whole
  exact whole

/-- A position is known from its place and its layer. -/
theorem eq_of_place_of_coordK {g h : Int} (place : t.place g = t.place h)
    (depth : t.coordK g = t.coordK h) : g = h := by
  rw [place_eq_fmod, place_eq_fmod] at place
  rw [coordK, coordK] at depth
  rw [← Int.fmod_add_fdiv_mul g t.layer, place, depth, Int.fmod_add_fdiv_mul]

namespace Located

/-- The order of cells that do not share a position. -/
def Before (a b : Located) : Prop :=
  a.place < b.place ∨ a.place = b.place ∧ a.depth < b.depth

variable {a b c : Located}

theorem Before.trans (h : a.Before b) (h' : b.Before c) : a.Before c := by
  rw [Before] at *
  omega

instance : Trans Before Before Before := ⟨Before.trans⟩

theorem le_iff : a.le b = true ↔ a.place < b.place ∨ a.place = b.place ∧ a.depth ≤ b.depth := by
  simp [le]

theorem le_trans (a b c : Located) : a.le b = true → b.le c = true → a.le c = true := by
  simp only [le_iff]
  omega

theorem le_total (a b : Located) : (a.le b || b.le a) = true := by
  rw [Bool.or_eq_true, le_iff, le_iff]
  omega

theorem before_iff :
    a.Before b ↔ a.le b = true ∧ ¬(a.place = b.place ∧ a.depth = b.depth) := by
  rw [le_iff, Before]
  omega

end Located

/-- Neighbours are enough: in a sorted list with no two equal neighbours all are distinct. -/
theorem distinctNeighbours_iff_pairwise {cells : List Located}
    (sorted : cells.Pairwise fun a b => a.le b = true) :
    distinctNeighbours cells = true ↔ cells.Pairwise Located.Before := by
  rw [← List.isChain_iff_pairwise]
  induction cells with
  | nil => simp [distinctNeighbours]
  | cons a rest ih =>
      cases rest with
      | nil => simp [distinctNeighbours]
      | cons b rest =>
          have le : a.le b = true := List.rel_of_pairwise_cons sorted List.mem_cons_self
          rw [List.isChain_cons_cons, ← ih sorted.of_cons, Located.before_iff]
          simp [distinctNeighbours, le, imp_iff_not_or]

theorem sortedCells_perm :
    t.sortedCells.Perm (t.cells.zipIdx.map fun (g, c) => ⟨c, t.place g, t.coordK g⟩) :=
  List.mergeSort_perm _ _

theorem pairwise_sortedCells : t.sortedCells.Pairwise fun a b => a.le b = true :=
  List.pairwise_mergeSort Located.le_trans Located.le_total _

/-- Every cell is sorted once. -/
theorem map_cell_sortedCells_perm :
    (t.sortedCells.map (·.cell)).Perm (List.range t.cells.length) := by
  have numbers : (t.cells.zipIdx.map fun (g, c) => (⟨c, t.place g, t.coordK g⟩ : Located)).map
      (·.cell) = List.range t.cells.length := by
    rw [List.map_map, List.range_eq_range', ← List.zipIdx_map_snd 0 t.cells]
    rfl
  rw [← numbers]
  exact t.sortedCells_perm.map _

theorem of_mem_sortedCells {a : Located} (h : a ∈ t.sortedCells) :
    a.place = (t.position a.cell).fmod t.layer ∧ a.depth = (t.position a.cell).fdiv t.layer := by
  obtain ⟨⟨g, c⟩, hg, rfl⟩ := List.mem_map.mp (t.sortedCells_perm.mem_iff.mp h)
  have position : t.position c = g := by
    rw [Topology.position, List.getD_eq_getElem?_getD, List.mem_zipIdx_iff_getElem?.mp hg]
    rfl
  rw [position]
  exact ⟨t.place_eq_fmod g, rfl⟩

/-- The sorted cells are strictly ordered when no position occurs twice. -/
theorem pairwise_before_iff_nodup :
    t.sortedCells.Pairwise Located.Before ↔ t.cells.Nodup := by
  have keys : (t.sortedCells.map fun a => (a.place, a.depth)).Perm
      (t.cells.map fun g => (t.place g, t.coordK g)) := by
    have perm := t.sortedCells_perm.map fun a => (a.place, a.depth)
    rw [List.map_map] at perm
    have first : (fun g => (t.place g, t.coordK g)) ∘ Prod.fst =
        (fun a : Located => (a.place, a.depth)) ∘
          fun (x : Int × Nat) => (⟨x.2, t.place x.1, t.coordK x.1⟩ : Located) := rfl
    rw [← first, ← List.map_map, List.zipIdx_map_fst] at perm
    exact perm
  have injective : Function.Injective fun g => (t.place g, t.coordK g) := by
    intro g h same
    obtain ⟨place, depth⟩ := Prod.mk.inj same
    exact t.eq_of_place_of_coordK place depth
  rw [← List.nodup_map_iff injective, ← keys.nodup_iff, List.Nodup, List.pairwise_map]
  constructor
  · intro before
    exact before.imp fun h same => (Located.before_iff.mp h).2 (Prod.mk.inj same)
  · intro distinct
    refine (t.pairwise_sortedCells.and distinct).imp ?_
    rintro a b ⟨le, ne⟩
    exact Located.before_iff.mpr ⟨le, fun same => ne (Prod.ext same.1 same.2)⟩

/-- Cells of one place, as they follow each other in sorted cells. -/
def runs (cells : List Located) : List (List Located) :=
  cells.splitBy fun a b => a.place == b.place

theorem cut_eq_map_runs (cells : List Located) :
    cut cells = (runs cells).map fun run => run.map (·.cell) := rfl

theorem flatten_cut (cells : List Located) : (cut cells).flatten = cells.map (·.cell) := by
  rw [cut_eq_map_runs, ← List.map_flatten, runs, List.flatten_splitBy]

section Runs

variable {cells : List Located}

theorem place_eq_of_mem_run {run : List Located} (h : run ∈ runs cells) {a b : Located}
    (ha : a ∈ run) (hb : b ∈ run) : a.place = b.place := by
  have chain : (run.map (·.place)).IsChain Eq := by
    rw [List.isChain_map]
    exact (List.isChain_of_mem_splitBy h).imp fun a b same => by simpa using same
  exact chain.pairwise.forall_of_forall (fun _ _ => rfl) (List.mem_map_of_mem ha)
    (List.mem_map_of_mem hb)

theorem sublist_of_mem_runs {run : List Located} (h : run ∈ runs cells) : run.Sublist cells := by
  have sub := List.sublist_flatten_of_mem h
  rwa [runs, List.flatten_splitBy] at sub

/-- Neighbouring runs differ in their places, so the places of strictly ordered cells rise from
run to run. The induction compares the first run with the second one, and with the others
through it. -/
theorem pairwise_place_lt {L : List (List Located)} (before : L.flatten.Pairwise Located.Before)
    (same : ∀ run ∈ L, ∀ a ∈ run, ∀ b ∈ run, a.place = b.place)
    (differ : L.IsChain fun c d => ∃ hc hd, ((c.getLast hc).place == (d.head hd).place) = false) :
    L.Pairwise fun c d => ∀ a ∈ c, ∀ b ∈ d, a.place < b.place := by
  induction L with
  | nil => exact List.Pairwise.nil
  | cons c rest ih =>
      rw [List.flatten_cons, List.pairwise_append] at before
      obtain ⟨_, later, cross⟩ := before
      have tail := ih later (fun run h => same run (List.mem_cons_of_mem c h)) differ.tail
      refine List.pairwise_cons.mpr ⟨?_, tail⟩
      intro d hd a ha b hb
      cases rest with
      | nil => cases hd
      | cons e rest =>
          obtain ⟨⟨hc, he, ne⟩, _⟩ := List.isChain_cons_cons.mp differ
          have second : a.place < (e.head he).place := by
            have last := same c List.mem_cons_self a ha _ (List.getLast_mem hc)
            have order := cross a ha (e.head he)
              (List.mem_flatten_of_mem List.mem_cons_self (List.head_mem he))
            have ne' : (c.getLast hc).place ≠ (e.head he).place := by simpa using ne
            rw [Located.Before] at order
            omega
          rcases List.mem_cons.mp hd with rfl | hd
          · have first := same d (by simp) _ (List.head_mem he) b hb
            omega
          · have further := (List.pairwise_cons.mp tail).1 d hd _ (List.head_mem he) b hb
            omega

theorem pairwise_runs (before : cells.Pairwise Located.Before) :
    (runs cells).Pairwise fun c d => ∀ a ∈ c, ∀ b ∈ d, a.place < b.place := by
  apply pairwise_place_lt
  · rwa [runs, List.flatten_splitBy]
  · exact fun run h a ha b hb => place_eq_of_mem_run h ha hb
  · exact List.isChain_getLast_head_splitBy (fun a b : Located => a.place == b.place) cells

end Runs

/-- The vertical partition of the cells: every cell stands in one column, the cells of a column
share their remainder and their quotients ascend, and so do the remainders of the columns. -/
structure Partition (columns : List (List Nat)) : Prop where
  perm : columns.flatten.Perm (List.range t.cells.length)
  nonempty : ∀ column ∈ columns, column ≠ []
  aligned : ∀ column ∈ columns, ∀ a ∈ column, ∀ b ∈ column,
    (t.position a).fmod t.layer = (t.position b).fmod t.layer
  downward : ∀ column ∈ columns, column.Pairwise fun a b =>
    (t.position a).fdiv t.layer < (t.position b).fdiv t.layer
  ascending : columns.Pairwise fun c d => ∀ a ∈ c, ∀ b ∈ d,
    (t.position a).fmod t.layer < (t.position b).fmod t.layer

/-- The order of cells by place and layer, in terms of their positions. -/
def CellBefore (a b : Nat) : Prop :=
  (t.position a).fmod t.layer < (t.position b).fmod t.layer ∨
    (t.position a).fmod t.layer = (t.position b).fmod t.layer ∧
      (t.position a).fdiv t.layer < (t.position b).fdiv t.layer

section Sorted

variable {t} {columns : List (List Nat)}
  (aligned : ∀ column ∈ columns, ∀ a ∈ column, ∀ b ∈ column,
    (t.position a).fmod t.layer = (t.position b).fmod t.layer)
  (downward : ∀ column ∈ columns, column.Pairwise fun a b =>
    (t.position a).fdiv t.layer < (t.position b).fdiv t.layer)
  (ascending : columns.Pairwise fun c d => ∀ a ∈ c, ∀ b ∈ d,
    (t.position a).fmod t.layer < (t.position b).fmod t.layer)
include aligned downward ascending

theorem pairwise_cellBefore_flatten : columns.flatten.Pairwise t.CellBefore := by
  rw [List.pairwise_flatten]
  refine ⟨?_, ascending.imp fun apart a ha b hb => .inl (apart a ha b hb)⟩
  intro column hc
  refine (downward column hc).imp_of_mem ?_
  intro a b ha hb down
  exact .inr ⟨aligned column hc a ha b hb, down⟩

/-- Columns in order are a partition if they hold all cells. -/
theorem partition_of_mem_iff (nonempty : ∀ column ∈ columns, column ≠ [])
    (mem : ∀ c, c ∈ columns.flatten ↔ c < t.cells.length) : t.Partition columns := by
  refine ⟨?_, nonempty, aligned, downward, ascending⟩
  have before := pairwise_cellBefore_flatten aligned downward ascending
  have distinct : columns.flatten.Nodup := by
    refine before.imp ?_
    rintro a b h rfl
    rw [CellBefore] at h
    omega
  refine (List.perm_ext_iff_of_nodup distinct List.nodup_range).mpr ?_
  intro c
  rw [mem, List.mem_range]

end Sorted

variable {t} in
/-- Every cell is in a column. -/
theorem Partition.exists_column {columns : List (List Nat)} (h : t.Partition columns) {c : Nat}
    (hc : c < t.cells.length) : ∃ column ∈ columns, c ∈ column :=
  List.mem_flatten.mp (h.perm.mem_iff.mpr (List.mem_range.mpr hc))

variable {t} in
/-- Only cells are in columns. -/
theorem Partition.lt_length {columns : List (List Nat)} (h : t.Partition columns)
    {column : List Nat} (hcolumn : column ∈ columns) {c : Nat} (hc : c ∈ column) :
    c < t.cells.length :=
  List.mem_range.mp (h.perm.mem_iff.mp (List.mem_flatten_of_mem hcolumn hc))

variable {t} in
/-- Cells at one place stand in one column. -/
theorem Partition.column_eq {columns : List (List Nat)} (h : t.Partition columns)
    {column other : List Nat} {a b : Nat} (hc : column ∈ columns) (ho : other ∈ columns)
    (ha : a ∈ column) (hb : b ∈ other)
    (place : (t.position a).fmod t.layer = (t.position b).fmod t.layer) : column = other := by
  have ascending := List.pairwise_iff_getElem.mp h.ascending
  obtain ⟨i, hi, rfl⟩ := List.mem_iff_getElem.mp hc
  obtain ⟨j, hj, rfl⟩ := List.mem_iff_getElem.mp ho
  rcases Nat.lt_trichotomy i j with less | rfl | greater
  · exact absurd place (Int.ne_of_lt (ascending i j hi hj less a ha b hb))
  · rfl
  · exact absurd place.symm (Int.ne_of_lt (ascending j i hj hi greater b hb a ha))

variable {t} in
theorem Partition.pairwise_flatten {columns : List (List Nat)} (h : t.Partition columns) :
    columns.flatten.Pairwise t.CellBefore :=
  pairwise_cellBefore_flatten h.aligned h.downward h.ascending

variable {t} in
/-- The columns of a partition are recovered from its cells by cutting where the place changes. -/
theorem Partition.splitBy_flatten {columns : List (List Nat)} (h : t.Partition columns) :
    columns.flatten.splitBy (fun a b =>
      (t.position a).fmod t.layer == (t.position b).fmod t.layer) = columns := by
  apply List.splitBy_flatten
  · exact fun member => h.nonempty [] member rfl
  · intro column hc
    apply List.Pairwise.isChain
    exact List.pairwise_of_forall_mem_list fun a ha b hb => by
      simpa using h.aligned column hc a ha b hb
  · apply List.Pairwise.isChain
    refine h.ascending.imp_of_mem ?_
    intro c d hc hd apart
    refine ⟨h.nonempty c hc, h.nonempty d hd, ?_⟩
    have less := apart _ (List.getLast_mem (h.nonempty c hc)) _ (List.head_mem (h.nonempty d hd))
    simpa using Int.ne_of_lt less

variable {t} in
/-- There is one vertical partition of the cells. -/
theorem Partition.unique {columns others : List (List Nat)} (h : t.Partition columns)
    (h' : t.Partition others) : columns = others := by
  have cells : columns.flatten = others.flatten := by
    refine (h.perm.trans h'.perm.symm).eq_of_pairwise ?_ h.pairwise_flatten h'.pairwise_flatten
    intro a b _ _ before after
    rw [CellBefore] at before after
    omega
  rw [← h.splitBy_flatten, cells, h'.splitBy_flatten]

theorem partition_cut (distinct : t.cells.Nodup) : t.Partition (cut t.sortedCells) := by
  have before := t.pairwise_before_iff_nodup.mpr distinct
  have cells : ∀ run ∈ runs t.sortedCells, ∀ a ∈ run, a ∈ t.sortedCells :=
    fun run h a ha => (sublist_of_mem_runs h).subset ha
  refine ⟨?_, ?_, ?_, ?_, ?_⟩
  · rw [flatten_cut]
    exact t.map_cell_sortedCells_perm
  · intro column h
    obtain ⟨run, hrun, rfl⟩ := List.mem_map.mp h
    exact List.map_eq_nil_iff.not.mpr (List.ne_nil_of_mem_splitBy hrun)
  · intro column h
    obtain ⟨run, hrun, rfl⟩ := List.mem_map.mp h
    simp only [List.forall_mem_map]
    intro a ha b hb
    rw [← (t.of_mem_sortedCells (cells run hrun a ha)).1,
      ← (t.of_mem_sortedCells (cells run hrun b hb)).1]
    exact place_eq_of_mem_run hrun ha hb
  · intro column h
    obtain ⟨run, hrun, rfl⟩ := List.mem_map.mp h
    rw [List.pairwise_map]
    refine (before.sublist (sublist_of_mem_runs hrun)).imp_of_mem ?_
    intro a b ha hb h
    rw [← (t.of_mem_sortedCells (cells run hrun a ha)).2,
      ← (t.of_mem_sortedCells (cells run hrun b hb)).2]
    have same := place_eq_of_mem_run hrun ha hb
    rw [Located.Before] at h
    omega
  · rw [cut_eq_map_runs, List.pairwise_map]
    refine (pairwise_runs before).imp_of_mem ?_
    intro c d hc hd h
    simp only [List.forall_mem_map]
    intro a ha b hb
    rw [← (t.of_mem_sortedCells (cells c hc a ha)).1,
      ← (t.of_mem_sortedCells (cells d hd b hb)).1]
    exact h a ha b hb

/-- All positions lie inside the dimensions. -/
def Inside : Prop :=
  ∀ g ∈ t.cells, 0 ≤ g ∧ g < t.nx * t.ny * t.nz

variable {t}

theorem checkInside_of_inside (h : t.Inside) : t.checkInside = .ok () := by
  rw [checkInside]
  rw [if_pos]
  simpa [Inside] using h

theorem checkInside_of_not_inside (h : ¬t.Inside) : t.checkInside = .error .cellsOutside := by
  rw [checkInside]
  rw [if_neg]
  simpa [Inside] using h

/-- Cells that lie inside are never divided by zero. -/
theorem divisors_ne_zero (h : t.Inside) (cells : t.cells ≠ []) : t.nx ≠ 0 ∧ t.layer ≠ 0 := by
  obtain ⟨g, rest, hg⟩ := List.exists_cons_of_ne_nil cells
  obtain ⟨lower, upper⟩ := h g (by rw [hg]; exact List.mem_cons_self)
  have product : t.nx * t.ny * t.nz ≠ 0 := by omega
  have layer : t.layer ≠ 0 := (Int.mul_ne_zero_iff.mp product).1
  exact ⟨(Int.mul_ne_zero_iff.mp layer).1, layer⟩

theorem columns_of_nil (h : t.cells = []) : t.columns = .ok [] := by
  have inside : t.Inside := by simp [Inside, h]
  rw [columns, checkInside_of_inside inside, h]
  rfl

theorem columns_of_not_inside (h : ¬t.Inside) : t.columns = .error .cellsOutside := by
  rw [columns, checkInside_of_not_inside h]
  rfl

/-- Cells inside the dimensions are cut into columns if the connections are accepted and no
position occurs twice. -/
theorem columns_of_inside (h : t.Inside) (cells : t.cells ≠ []) :
    t.columns = t.checkConnections.bind fun _ =>
      if t.cells.Nodup then .ok (cut t.sortedCells) else .error .sharedPosition := by
  have some : t.cells.isEmpty = false := by simpa using cells
  have distinct := (distinctNeighbours_iff_pairwise t.pairwise_sortedCells).trans
    t.pairwise_before_iff_nodup
  rw [columns, checkInside_of_inside h]
  simp only [some, distinct]
  rfl

theorem columns_eq_ok_iff (cells : t.cells ≠ []) {columns : List (List Nat)} :
    t.columns = .ok columns ↔ t.Inside ∧ t.cells.Nodup ∧ t.checkConnections = .ok () ∧
      columns = cut t.sortedCells := by
  by_cases inside : t.Inside
  · rw [columns_of_inside inside cells]
    cases t.checkConnections with
    | error e => simp [Except.bind]
    | ok =>
        by_cases distinct : t.cells.Nodup
        · simp [Except.bind, inside, distinct, eq_comm]
        · simp [Except.bind, distinct]
  · simp [columns_of_not_inside inside, inside]

theorem kind_of_checkConnections {e : GridFault} (h : t.checkConnections = .error e) :
    e.kind = .grid := by
  rw [checkConnections] at h
  split at h
  · cases h
  · exact kind_of_checkSingleFile (by simp) (by simp) h

theorem kind_of_columns {e : GridFault} (h : t.columns = .error e) : e.kind = .grid := by
  by_cases inside : t.Inside
  · by_cases cells : t.cells = []
    · rw [columns_of_nil cells] at h
      cases h
    · rw [columns_of_inside inside cells] at h
      cases connected : t.checkConnections with
      | error d =>
          rw [connected] at h
          cases h
          exact kind_of_checkConnections connected
      | ok =>
          rw [connected, Except.bind] at h
          split at h
          · cases h
          · cases h
            rfl
  · rw [columns_of_not_inside inside] at h
    cases h
    rfl

/-- Columns that are extracted are the vertical partition of the cells. -/
theorem partition_of_columns {columns : List (List Nat)} (h : t.columns = .ok columns) :
    t.Partition columns := by
  by_cases cells : t.cells = []
  · rw [columns_of_nil cells] at h
    cases h
    exact ⟨by simp [cells], nofun, nofun, nofun, .nil⟩
  · obtain ⟨_, distinct, _, rfl⟩ := (columns_eq_ok_iff cells).mp h
    exact t.partition_cut distinct

/-- Numbering the columns never fails once they have been extracted. -/
theorem outcome_extract (t : Topology) :
    t.extract.outcome = (t.columns.mapError .grid).map fun columns =>
      { columns := columns.map .flat, index := numberOfColumn columns } := by
  simp only [extract, columnIndex, Reported.outcome_bind, Reported.outcome_ofExcept,
    Reported.outcome_tell, Reported.outcome_pure]
  cases t.columns <;> rfl

end Topology

end Reservoir
