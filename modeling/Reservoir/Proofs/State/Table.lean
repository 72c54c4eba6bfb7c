import Mathlib
import Reservoir.Proofs.Datum.Nested
import Reservoir.Proofs.State.Layout
import Reservoir.State.Table

/-!
# The table of a state

The table of a state is the transpose of its arrays: the rates stand in the state well by well,
and in the table in one column for each phase. The arrays have to agree on a number of rows, up
to columns of a single value, which are repeated to any number of them.

`WellState.Transposed` is what comes of arrays that agree on the wells. `WellState.TableRows` says
of all arrays when there is a table, and which rows it has.
-/

namespace Reservoir

namespace Block

/-- A block can be a column when it has one axis, or none. -/
def IsColumn : Block Float → Prop
  | .flat _ => True
  | .shaped shape _ => shape = []

/-- A block makes a column of a number of rows: it has as many values, or a single one. -/
def Fills (b : Block Float) (rows : Nat) : Prop :=
  b.IsColumn ∧ (b.entries.length = rows ∨ b.entries.length = 1)

/-- A column that has a length has as many entries. -/
theorem length_entries_of_isColumn {b : Block Float} {n : Nat} (column : b.IsColumn)
    (h : b.length? = .ok n) : b.entries.length = n := by
  match b, column with
  | .flat _, _ => exact Except.ok.inj h
  | .shaped [] _, _ => cases h

end Block

namespace Table

/-- A pressure, or a NaN if it is the mark. -/
def maskedPressure (unset p : Float) : Float :=
  if p == unset then Datum.nan else p

/-- The cell of a named column in one row. -/
def cell? (t : Table) (column : String) (row : Nat) : Option Float :=
  (t.columns.lookup column).bind fun cells => cells[row]?

/-- A single value repeated, and other values as they are. -/
def stretched (rows : Nat) : List Float → List Float
  | [x] => List.replicate rows x
  | xs => xs

/-- What a named block that makes a column is shown as. -/
def fitted (rows : Nat) (column : String × Block Float) : String × List Float :=
  (column.1, stretched rows column.2.entries)

/-- The name of the column of a phase. -/
def rateName (p : Nat) : String := "rate_" ++ toString p

/-- The labels of the rows of a table. -/
def labels (wells : Nat) : Option (List String) → List RowLabel
  | some names => names.map .name
  | none => (List.range wells).map .number

/-- The rates of a phase, of rates that stand well by well. -/
def rateColumn (wells width p : Nat) (rates : List Float) : List Float :=
  (rowsOf wells width rates).map fun row => row[p]?.getD 0.0

variable {xs : List Float} {rows wells width w p : Nat}

theorem length_labels {names : Option (List String)} (h : ∀ ns ∈ names, ns.length = wells) :
    (labels wells names).length = wells := by
  cases names with
  | none => exact (List.length_map _).trans List.length_range
  | some ns => exact (List.length_map _).trans (h ns rfl)

theorem stretched_of_length (h : xs.length = rows) : stretched rows xs = xs := by
  unfold stretched
  split
  · subst h
    rfl
  · rfl

theorem length_stretched (h : xs.length = rows ∨ xs.length = 1) :
    (stretched rows xs).length = rows := by
  unfold stretched
  split
  · exact List.length_replicate
  · next several =>
    refine h.resolve_right fun single => ?_
    obtain ⟨x, rfl⟩ := List.length_eq_one_iff.mp single
    exact several x rfl

theorem fit_eq (rows : Nat) (xs : List Float) :
    fit rows xs = if xs.length = rows ∨ xs.length = 1 then .ok (stretched rows xs)
      else .error .unequalLengths := by
  unfold fit stretched
  split
  · exact (if_pos (.inr rfl)).symm
  · next several =>
    have many : xs.length ≠ 1 := by
      intro single
      obtain ⟨x, rfl⟩ := List.length_eq_one_iff.mp single
      exact several x rfl
    simp only [or_iff_left many]

theorem fit_of_length (h : xs.length = rows) : fit rows xs = .ok xs := by
  rw [fit_eq, if_pos (.inl h), stretched_of_length h]

theorem fitColumn_of_fills {column : String × Block Float} (h : column.2.Fills rows) :
    fitColumn rows column = .ok (fitted rows column) := by
  obtain ⟨name, b⟩ := column
  obtain ⟨isColumn, length⟩ := h
  have fits : fit rows b.entries = .ok (stretched rows b.entries) :=
    (fit_eq rows b.entries).trans (if_pos length)
  match b, isColumn with
  | .flat xs, _ => exact congrArg (Except.map (name, ·)) fits
  | .shaped [] xs, _ => exact congrArg (Except.map (name, ·)) fits

theorem fitColumn_of_not_fills {column : String × Block Float} (h : ¬column.2.Fills rows) :
    fitColumn rows column = .error .unequalLengths := by
  obtain ⟨name, b⟩ := column
  have refused (isColumn : b.IsColumn) : fit rows b.entries = .error .unequalLengths :=
    (fit_eq rows b.entries).trans (if_neg fun length => h ⟨isColumn, length⟩)
  match b with
  | .flat xs => exact congrArg (Except.map (name, ·)) (refused trivial)
  | .shaped [] xs => exact congrArg (Except.map (name, ·)) (refused rfl)
  | .shaped (_ :: _) _ => rfl

/-- Columns are fitted when each of them makes a column. -/
theorem mapM_fitColumn_of_forall {columns : List (String × Block Float)}
    (h : ∀ column ∈ columns, column.2.Fills rows) :
    columns.mapM (fitColumn rows) = .ok (columns.map (fitted rows)) :=
  mapM_eq_ok_map fun column member => fitColumn_of_fills (h column member)

theorem mapM_fitColumn_of_not_forall {columns : List (String × Block Float)}
    (h : ¬∀ column ∈ columns, column.2.Fills rows) :
    columns.mapM (fitColumn rows) = .error .unequalLengths := by
  push Not at h
  obtain ⟨column, member, other⟩ := h
  refine mapM_eq_error_of_mem ?_ member (fitColumn_of_not_fills other)
  intro c _ e refused
  by_cases fills : c.2.Fills rows
  · cases (fitColumn_of_fills fills).symm.trans refused
  · cases (fitColumn_of_not_fills fills).symm.trans refused
    rfl

theorem entries_masked (unset : Float) (b : Block Float) :
    (masked unset b).entries = b.entries.map (maskedPressure unset) := by
  cases b <;> rfl

theorem isColumn_masked_iff {unset : Float} {b : Block Float} :
    (masked unset b).IsColumn ↔ b.IsColumn := by
  cases b <;> rfl

theorem fills_masked_iff {unset : Float} {b : Block Float} :
    (masked unset b).Fills rows ↔ b.Fills rows := by
  rw [Block.Fills, isColumn_masked_iff, entries_masked, List.length_map]
  rfl

theorem rateName_inj {q : Nat} : rateName p = rateName q ↔ p = q := by
  rw [rateName, rateName, String.append_right_inj]
  exact Nat.repr_inj

theorem length_rateColumn (rates : List Float) :
    (rateColumn wells width p rates).length = wells :=
  (List.length_map _).trans (length_rowsOf ..)

/-- The rate of a well is in its row. -/
theorem getElem?_rateColumn {rates : List Float} (length : rates.length = wells * width)
    (hw : w < wells) (hp : p < width) :
    (rateColumn wells width p rates)[w]? = rates[w * width + p]? := by
  have inside : (w + 1) * width ≤ wells * width := Nat.mul_le_mul_right _ hw
  rw [Nat.succ_mul] at inside
  have rate : rates[w * width + p]? = some rates[w * width + p] :=
    List.getElem?_eq_getElem (by omega)
  have found := (getElem?_rowsOf hw hp rates).trans rate
  obtain ⟨row, place, entry⟩ := Option.bind_eq_some_iff.mp found
  rw [rateColumn, List.getElem?_map, place, rate, Option.map_some, entry, Option.getD_some]

/-- No name of the column of a phase is the name of another column. -/
theorem head?_rateName (p : Nat) : (rateName p).toList.head? = some 'r' := by
  rw [rateName, String.toList_append]
  rfl

/-- The names of the columns of a table. -/
def header (phases : Nat) : List String :=
  ["bhp", "thp", "temperature"] ++ (List.range phases).map rateName

theorem nodup_header (phases : Nat) : (header phases).Nodup := by
  have others : ∀ name ∈ ["bhp", "thp", "temperature"], name.toList.head? ≠ some 'r' := by
    decide
  refine List.nodup_append.mpr ⟨by decide, ?_, ?_⟩
  · exact List.nodup_range.map fun p q => rateName_inj.mp
  · rintro name member other rate rfl
    obtain ⟨p, _, rfl⟩ := List.mem_map.mp rate
    exact others _ member (head?_rateName p)

/-- Under different names, a column is found by its name. -/
theorem lookup_of_mem {columns : List (String × List Float)} {c : String × List Float}
    (distinct : (columns.map (·.1)).Nodup) (h : c ∈ columns) :
    columns.lookup c.1 = some c.2 := by
  induction columns with
  | nil => cases h
  | cons d columns ih =>
      rw [List.map_cons, List.nodup_cons] at distinct
      rcases List.mem_cons.mp h with rfl | member
      · exact List.lookup_cons_self
      · have other : c.1 ≠ d.1 := fun same =>
          distinct.1 (same ▸ List.mem_map_of_mem (f := Prod.fst) member)
        rw [List.lookup_cons, beq_false_of_ne other]
        exact ih distinct.2 member

/-- The entries at places from the first one on. -/
theorem filterMap_getElem?_range (xs : List Float) (k : Nat) :
    (List.range k).filterMap (fun p => xs[p]?) = xs.take k := by
  induction k with
  | zero => rfl
  | succ k ih =>
      rw [List.range_succ, List.filterMap_append, ih, List.take_add_one, List.filterMap_cons]
      cases xs[k]? <;> rfl

/-- The rates of a well, by phase, as a table shows them. -/
def rateRow (t : Table) (phases w : Nat) : List Float :=
  (List.range phases).filterMap fun p => t.cell? (rateName p) w

end Table

/-- The arrays of a state that are columns of its table. -/
def Field.tabled : List Field := [.bhp, .thp, .temperature]

namespace WellState

/-- The columns of the table of a state, of which the number of wells and of rates for each are
known. -/
def columnsOf (s : WellState) (wells width : Nat) : List (String × Block Float) :=
  [("bhp", Table.masked s.settings.unsetPressure s.bhp),
    ("thp", Table.masked s.settings.unsetPressure s.thp), ("temperature", s.temperature)] ++
    (List.range s.phases.toNat).map fun p =>
      (Table.rateName p, .flat (Table.rateColumn wells width p s.wellRates.entries))

/-- There are wells, or a number of phases that rows can have without any. -/
def Readable (s : WellState) (n : Nat) : Prop := 0 < n ∨ 0 ≤ s.phases ∧ s.phases < rowLimit

/-- The rates of a state can be laid out in rows of as many as there are phases, one row for each
well. -/
def RatesFit (s : WellState) (n : Nat) : Prop :=
  (s.wellRates.entries.length : Int) = n * s.phases ∧ s.Readable n

variable {s : WellState} {names : Option (List String)} {t : Table} {n width rows : Nat}

theorem kind_of_rowLength {entries : Nat} {phases : Int} {e : InputFault}
    (h : rowLength entries rows phases = .error e) : e.kind = .invalid := by
  unfold rowLength at h
  split at h
  · split at h
    · cases h
      rfl
    · split at h
      · cases h
        rfl
      · cases h
  · split at h
    · cases h
    · cases h
      rfl

/-- Rates that fit have rows that are as long as there are phases. -/
theorem RatesFit.length (h : s.RatesFit n) :
    0 ≤ s.phases ∧ s.wellRates.entries.length = n * s.phases.toNat := by
  obtain ⟨count, readable⟩ := h
  have nonneg : 0 ≤ s.phases := by
    rcases readable with wells | ⟨nonneg, _⟩
    · refine nonneg_of_mul_nonneg_right ?_ (Int.natCast_pos.mpr wells)
      rw [← count]
      exact Int.natCast_nonneg _
    · exact nonneg
  refine ⟨nonneg, ?_⟩
  rw [← Int.toNat_of_nonneg nonneg] at count
  exact_mod_cast count

/-- The names of the columns do not depend on what the columns hold. -/
theorem map_fst_columnsOf (s : WellState) (wells width : Nat) :
    (s.columnsOf wells width).map (·.1) = Table.header s.phases.toNat := by
  rw [columnsOf, List.map_append, List.map_map]
  rfl

/-- The table of a state with a number of wells, whose arrays make columns. -/
def shownTable (s : WellState) (wells : Nat) (names : Option (List String)) : Table :=
  let index := Table.labels wells names
  { columns := (s.columnsOf wells s.phases.toNat).map (Table.fitted index.length), index }

section Table

variable (size : s.size? = .ok n)
include size

theorem rateWidth_eq : s.rateWidth = rowLength s.wellRates.entries.length n s.phases := by
  rw [rateWidth, size]
  rfl

theorem rateWidth_of_ratesFit (h : s.RatesFit n) : s.rateWidth = .ok s.phases.toNat := by
  obtain ⟨nonneg, length⟩ := h.length
  have narrow : ¬(n = 0 ∧ rowLimit ≤ s.phases) := by
    have readable := h.2
    rw [Readable] at readable
    omega
  rw [rateWidth_eq size, rowLength, if_pos nonneg, if_neg (not_not.mpr length.symm), if_neg narrow]

theorem ratesFit_of_rateWidth (counted : 0 ≤ s.phases ∨ n = 0)
    (h : s.rateWidth = .ok width) : s.RatesFit n ∧ width = s.phases.toNat := by
  rw [rateWidth_eq size, rowLength] at h
  by_cases nonneg : 0 ≤ s.phases
  · rw [if_pos nonneg] at h
    split at h
    · cases h
    · next same =>
      split at h
      · cases h
      · next narrow =>
        cases h
        refine ⟨⟨?_, by rw [Readable]; omega⟩, rfl⟩
        rw [← not_not.mp same, Nat.cast_mul, Int.toNat_of_nonneg nonneg]
  · have none : n = 0 := counted.resolve_left nonneg
    rw [if_neg nonneg, if_neg fun rows => rows.1 none] at h
    cases h

/-- The columns of the rates have as many entries as the bottom hole pressures, so all columns can
be made when the arrays make theirs. -/
theorem forall_fills_columnsOf_iff :
    (∀ column ∈ s.columnsOf n width, column.2.Fills rows) ↔
      ∀ f ∈ Field.tabled, (s.toArrays.get f).Fills rows := by
  have rates (h : s.bhp.Fills rows) (p : Nat) :
      (Block.flat (Table.rateColumn n width p s.wellRates.entries)).Fills rows := by
    refine ⟨trivial, ?_⟩
    rw [Block.entries_flat, Table.length_rateColumn,
      ← Block.length_entries_of_isColumn h.1 size]
    exact h.2
  simp only [columnsOf, Field.tabled, List.forall_mem_append, List.forall_mem_cons,
    List.forall_mem_map, Table.fills_masked_iff, List.not_mem_nil, false_implies, implies_true,
    and_true]
  exact and_iff_left_of_imp fun h p _ => rates h.1 p

theorem table_eq :
    s.table names = s.rateWidth >>= fun width =>
      ((s.columnsOf n width).mapM (Table.fitColumn (Table.labels n names).length)).map
        fun columns => ⟨columns, Table.labels n names⟩ := by
  rw [table, tableColumns, ratesByWell, size]
  cases s.rateWidth with
  | error e => rfl
  | ok width => cases names <;> rfl

theorem table_of_fills (rates : s.RatesFit n)
    (fills : ∀ f ∈ Field.tabled, (s.toArrays.get f).Fills (Table.labels n names).length) :
    s.table names = .ok (s.shownTable n names) := by
  rw [table_eq size, rateWidth_of_ratesFit size rates]
  simp only [bind, Except.bind]
  rw [Table.mapM_fitColumn_of_forall ((forall_fills_columnsOf_iff size).mpr fills)]
  rfl

/-- What is refused is refused for its length. -/
theorem kind_of_table {e : InputFault} (h : s.table names = .error e) : e.kind = .invalid := by
  rw [table_eq size] at h
  cases found : s.rateWidth with
  | error cause =>
      rw [found] at h
      cases h
      rw [rateWidth_eq size] at found
      exact kind_of_rowLength found
  | ok width =>
      rw [found] at h
      simp only [bind, Except.bind] at h
      by_cases fills : ∀ column ∈ s.columnsOf n width,
          column.2.Fills (Table.labels n names).length
      · rw [Table.mapM_fitColumn_of_forall fills] at h
        cases h
      · rw [Table.mapM_fitColumn_of_not_forall fills] at h
        cases h
        rfl

/-- There is a table when the arrays make columns of as many rows as are named and the rates have
rows of as many as there are phases. -/
theorem table_eq_ok_iff (counted : 0 ≤ s.phases ∨ n = 0) :
    s.table names = .ok t ↔
      s.RatesFit n ∧
        (∀ f ∈ Field.tabled, (s.toArrays.get f).Fills (Table.labels n names).length) ∧
        t = s.shownTable n names := by
  constructor
  · intro h
    have made := h
    rw [table_eq size] at made
    obtain ⟨width, found, made⟩ := bind_eq_ok_iff.mp made
    obtain ⟨rates, rfl⟩ := ratesFit_of_rateWidth size counted found
    have fills : ∀ f ∈ Field.tabled,
        (s.toArrays.get f).Fills (Table.labels n names).length := by
      rw [← forall_fills_columnsOf_iff size]
      by_contra other
      rw [Table.mapM_fitColumn_of_not_forall other] at made
      cases made
    cases h.symm.trans (table_of_fills size rates fills)
    exact ⟨rates, fills, rfl⟩
  · rintro ⟨rates, fills, rfl⟩
    exact table_of_fills size rates fills

end Table

/-- What is found when a table of a state is asked for. The rows of a table are as many as are
named, and otherwise as many as there are bottom hole pressures. Every array has a value for each
of them or a single one. -/
structure TableRows (s : WellState) (names : Option (List String))
    (found : Except InputFault Table) : Prop where
  table_iff : (∃ t, found = .ok t) ↔ ∃ n, s.size? = .ok n ∧ s.RatesFit n ∧
    ∀ f ∈ Field.tabled, (s.toArrays.get f).Fills (Table.labels n names).length
  rows : ∀ t n, found = .ok t → s.size? = .ok n → t = s.shownTable n names ∧
    ∀ c ∈ t.columns, c.2.length = t.index.length
  several : ∀ t n, found = .ok t → s.size? = .ok n →
    (∀ f ∈ Field.tabled, (s.toArrays.get f).entries.length ≠ 1) →
      t.index.length = n ∧ (∀ f ∈ Field.tabled, (s.toArrays.get f).entries.length = n) ∧
        ∀ ns ∈ names, ns.length = n
  refused : ∀ e, found = .error e → e.kind = .invalid ∨ s.size? = .error e

section TableRows

variable (size : s.size? = .ok n)
  (fills : ∀ f ∈ Field.tabled, (s.toArrays.get f).Fills (Table.labels n names).length)
include size fills

theorem length_of_mem_shownTable :
    ∀ c ∈ (s.shownTable n names).columns, c.2.length = (Table.labels n names).length := by
  rintro _ shown
  obtain ⟨column, member, rfl⟩ := List.mem_map.mp shown
  exact Table.length_stretched ((forall_fills_columnsOf_iff size).mpr fills column member).2

/-- Arrays of several values agree with the bottom hole pressures, and so do the names. -/
theorem length_eq_of_several
    (several : ∀ f ∈ Field.tabled, (s.toArrays.get f).entries.length ≠ 1) :
    (Table.labels n names).length = n ∧
      (∀ f ∈ Field.tabled, (s.toArrays.get f).entries.length = n) ∧
        ∀ ns ∈ names, ns.length = n := by
  have same : ∀ f ∈ Field.tabled,
      (s.toArrays.get f).entries.length = (Table.labels n names).length :=
    fun f tabled => (fills f tabled).2.resolve_right (several f tabled)
  have bhp : Field.bhp ∈ Field.tabled := by decide
  have count : (s.toArrays.get .bhp).entries.length = n :=
    Block.length_entries_of_isColumn (fills _ bhp).1 size
  have rows : (Table.labels n names).length = n := (same _ bhp).symm.trans count
  refine ⟨rows, fun f tabled => (same f tabled).trans rows, ?_⟩
  rintro ns ⟨⟩
  rwa [Table.labels, List.length_map] at rows

end TableRows

theorem tableRows (names : Option (List String)) (counted : 0 ≤ s.phases) :
    s.TableRows names (s.table names) := by
  cases size : s.size? with
  | error e =>
      have refused : s.table names = .error e := by
        rw [table, tableColumns, ratesByWell, size]
        rfl
      rw [refused]
      constructor
      · simp only [size, reduceCtorEq, exists_false, false_and]
      · rintro t n ⟨⟩
      · rintro t n ⟨⟩
      · rintro _ ⟨⟩
        exact .inr size
  | ok n =>
      have made {t : Table} : s.table names = .ok t ↔ _ := table_eq_ok_iff size (.inl counted)
      refine ⟨⟨?_, ?_⟩, ?_, ?_, fun e refused => .inl (kind_of_table size refused)⟩
      · rintro ⟨t, found⟩
        obtain ⟨rates, fills, _⟩ := made.mp found
        exact ⟨n, size, rates, fills⟩
      · rintro ⟨m, same, rates, fills⟩
        cases size.symm.trans same
        exact ⟨_, made.mpr ⟨rates, fills, rfl⟩⟩
      · intro t m found same
        cases size.symm.trans same
        obtain ⟨_, fills, rfl⟩ := made.mp found
        exact ⟨rfl, length_of_mem_shownTable size fills⟩
      · intro t m found same several
        cases size.symm.trans same
        obtain ⟨_, fills, rfl⟩ := made.mp found
        exact length_eq_of_several size fills several

/-- A table has the pressures of a state, under its own mark, in two of its columns. -/
structure ListedBy (s : WellState) (t : Table) : Prop where
  bhp : t.columns.lookup "bhp" =
    some (s.bhp.entries.map (Table.maskedPressure s.settings.unsetPressure))
  thp : t.columns.lookup "thp" =
    some (s.thp.entries.map (Table.maskedPressure s.settings.unsetPressure))

/-- A table has a row for each of a number of wells, with what a state holds for the well. -/
structure Transposed (s : WellState) (n : Nat) (names : Option (List String)) (t : Table) :
    Prop extends ListedBy s t where
  header : t.columns.map (·.1) = Table.header s.phases.toNat
  index : t.index = Table.labels n names
  rows : t.index.length = n ∧ ∀ c ∈ t.columns, c.2.length = n
  temperature : t.columns.lookup "temperature" = some s.temperature.entries
  rate : ∀ w < n, ∀ p < s.phases.toNat, ∃ x, t.cell? (Table.rateName p) w = some x ∧
    s.wellRates.entries[w * s.phases.toNat + p]? = some x
  rates : (List.range n).flatMap (t.rateRow s.phases.toNat) = s.wellRates.entries

/-- The arrays of a state are plain and as long as a number of wells and that of phases ask for. -/
structure SizedFor (s : WellState) (n : Nat) : Prop where
  tabled : ∀ f ∈ Field.tabled, ∃ xs, s.toArrays.get f = .flat xs ∧ xs.length = n
  rates : (s.wellRates.entries.length : Int) = n * s.phases

section SizedFor

variable (h : s.SizedFor n)
include h

theorem SizedFor.size : s.size? = .ok n := by
  obtain ⟨xs, flat, length⟩ := h.tabled .bhp (by decide)
  have flat : s.bhp = .flat xs := flat
  rw [size?, flat, Block.length?_flat, length]

theorem SizedFor.length_entries {f : Field} (tabled : f ∈ Field.tabled) :
    (s.toArrays.get f).entries.length = n := by
  obtain ⟨xs, flat, length⟩ := h.tabled f tabled
  rw [flat]
  exact length

theorem SizedFor.fills {f : Field} (tabled : f ∈ Field.tabled) :
    (s.toArrays.get f).Fills n := by
  refine ⟨?_, .inl (h.length_entries tabled)⟩
  obtain ⟨xs, flat, _⟩ := h.tabled f tabled
  rw [flat]
  trivial

theorem SizedFor.length_of_mem_columnsOf {column : String × Block Float}
    (member : column ∈ s.columnsOf n width) : column.2.entries.length = n := by
  have own : ∀ f ∈ Field.tabled, (s.toArrays.get f).entries.length = n :=
    fun f => h.length_entries
  simp only [Field.tabled, List.forall_mem_cons] at own
  obtain ⟨bhp, thp, temperature, _⟩ := own
  rcases List.mem_append.mp member with named | rate
  · simp only [List.mem_cons, List.not_mem_nil, or_false] at named
    rcases named with rfl | rfl | rfl
    · rw [Table.entries_masked, List.length_map]
      exact bhp
    · rw [Table.entries_masked, List.length_map]
      exact thp
    · exact temperature
  · obtain ⟨p, _, rfl⟩ := List.mem_map.mp rate
    exact Table.length_rateColumn _

/-- Without wells, rates for less than no phases or for too many are refused. -/
theorem SizedFor.exists_refused (unreadable : ¬s.Readable n) (names : Option (List String)) :
    ∃ e, s.table names = .error e ∧ e.kind = .invalid := by
  have none : n = 0 := by
    rw [Readable] at unreadable
    omega
  cases made : s.table names with
  | ok t => exact absurd ((table_eq_ok_iff h.size (.inr none)).mp made).1.2 unreadable
  | error e => exact ⟨e, rfl, kind_of_table h.size made⟩

section Count

variable (count : ∀ ns ∈ names, ns.length = n)
include count

theorem SizedFor.table (rates : s.Readable n) :
    s.table names = .ok (s.shownTable n names) := by
  refine table_of_fills h.size ⟨h.rates, rates⟩ fun f tabled => ?_
  rw [Table.length_labels count]
  exact h.fills tabled

theorem SizedFor.lookup_shownTable {column : String × Block Float}
    (member : column ∈ s.columnsOf n s.phases.toNat) :
    (s.shownTable n names).columns.lookup column.1 = some column.2.entries := by
  have distinct : ((s.shownTable n names).columns.map (·.1)).Nodup := by
    rw [shownTable, List.map_map]
    exact (map_fst_columnsOf s n _).symm ▸ Table.nodup_header _
  have found := Table.lookup_of_mem distinct (List.mem_map_of_mem member)
  rwa [Table.fitted, Table.stretched_of_length
    ((h.length_of_mem_columnsOf member).trans (Table.length_labels count).symm)] at found

/-- The rates of a phase stand in its column. -/
theorem SizedFor.cell?_rateName {w p : Nat} (fits : s.RatesFit n) (hw : w < n)
    (hp : p < s.phases.toNat) :
    (s.shownTable n names).cell? (Table.rateName p) w =
      s.wellRates.entries[w * s.phases.toNat + p]? := by
  have member : (Table.rateName p, Block.flat
      (Table.rateColumn n s.phases.toNat p s.wellRates.entries)) ∈
        s.columnsOf n s.phases.toNat :=
    List.mem_append_right _ (List.mem_map_of_mem (List.mem_range.mpr hp))
  rw [Table.cell?, h.lookup_shownTable count member, Option.bind_some, Block.entries_flat,
    Table.getElem?_rateColumn fits.length.2 hw hp]

/-- The rates of a well are shown in the order of the phases. -/
theorem SizedFor.rateRow {w : Nat} (fits : s.RatesFit n) (hw : w < n) :
    (s.shownTable n names).rateRow s.phases.toNat w =
      (s.wellRates.entries.drop (w * s.phases.toNat)).take s.phases.toNat := by
  rw [Table.rateRow, ← Table.filterMap_getElem?_range]
  refine List.filterMap_congr fun p hp => ?_
  rw [h.cell?_rateName count fits hw (List.mem_range.mp hp), List.getElem?_drop]

/-- The table of a state has the values of its arrays. -/
theorem SizedFor.transposed (rates : s.Readable n) :
    s.Transposed n names (s.shownTable n names) := by
  have fits : s.RatesFit n := ⟨h.rates, rates⟩
  have length := Table.length_labels count
  have find {column : String × Block Float} (member : column ∈ s.columnsOf n s.phases.toNat) :=
    h.lookup_shownTable count member
  constructor
  · constructor
    · rw [← Table.entries_masked]
      exact find List.mem_cons_self
    · rw [← Table.entries_masked]
      exact find (List.mem_cons_of_mem _ List.mem_cons_self)
  · rw [shownTable, List.map_map]
    exact map_fst_columnsOf s n _
  · rfl
  · refine ⟨length, ?_⟩
    rintro _ shown
    obtain ⟨column, member, rfl⟩ := List.mem_map.mp shown
    have same := h.length_of_mem_columnsOf member
    exact (Table.length_stretched (.inl (same.trans length.symm))).trans length
  · exact find (List.mem_cons_of_mem _ (List.mem_cons_of_mem _ List.mem_cons_self))
  · intro w hw p hp
    have place := h.cell?_rateName count fits hw hp
    have inside : (w + 1) * s.phases.toNat ≤ n * s.phases.toNat := Nat.mul_le_mul_right _ hw
    rw [Nat.succ_mul, ← fits.length.2] at inside
    have rate := List.getElem?_eq_getElem (l := s.wellRates.entries)
      (i := w * s.phases.toNat + p) (by omega)
    exact ⟨_, place.trans rate, rate⟩
  · rw [← flatten_rowsOf fits.length.2, rowsOf, List.flatMap_def]
    refine congrArg List.flatten (List.map_congr_left fun w hw => ?_)
    exact h.rateRow count fits (List.mem_range.mp hw)

end Count

end SizedFor

/-- A state that is laid out has arrays of the lengths of its layout. -/
theorem LaidOut.sizedFor {l : Layout} (h : s.LaidOut l) : s.SizedFor l.wells := by
  constructor
  · intro f tabled
    refine ⟨_, h.plain f, (h.length f).trans ?_⟩
    simp only [Field.tabled, List.mem_cons, List.not_mem_nil, or_false] at tabled
    rcases tabled with rfl | rfl | rfl <;> rfl
  · rw [h.phases]
    exact congrArg Nat.cast (h.length .wellRates)

theorem LaidOut.readable {l : Layout} (h : s.LaidOut l) (readable : l.Readable) :
    s.Readable l.wells := by
  rw [Readable, h.phases]
  exact readable.imp_right fun short => ⟨Int.natCast_nonneg _, short⟩

end WellState

end Reservoir
