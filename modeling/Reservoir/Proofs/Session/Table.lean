import Reservoir.Proofs.Session.FirstState
import Reservoir.Proofs.Session.Layout
import Reservoir.Proofs.State.Table

/-!
# Tables of the states of a session

A table may be asked for with any set of wells, whether the state was made from it or not. As long
as the arrays of the state and the wells agree, the table has what the state holds, well by well.
Otherwise the lengths are refused, up to those of single values: an array of one value is repeated
for all wells that are named, so that the table of one well may have many rows.
-/

namespace Reservoir

namespace Session

variable {s : Session} {name : String} {ref : StateRef} {wells : Option String}
  {shown : Option WellSet} {n : Nat}

/-- What comes of asking for the table of a state. -/
def tabled (s : Session) (name : String) (wells : Option String) : Except Fault Reply :=
  (s.step (.plain (.table name wells))).2.outcome

theorem tabled_eq (bound : s.states.find? name = some ref)
    (found : s.optionalWells wells = .ok shown) :
    s.tabled name wells =
      (((ref.view s.heap).table (shown.map (·.names))).mapError .input).map .table := by
  rw [tabled, outcome_step_plain, answer, view_of_bound bound, found]
  simp only [bind, Except.bind]
  cases (ref.view s.heap).table (shown.map (·.names)) <;> rfl

/-- A state is shown well by well, if there are wells or not too many phases. -/
structure TabulatesWells (s : Session) (name : String) (wells : Option String)
    (names : Option (List String)) (state : WellState) (n : Nat) : Prop where
  transposed : state.Readable n →
    ∃ t, s.tabled name wells = .ok (.table t) ∧ state.Transposed n names t
  unreadable : ¬state.Readable n →
    ∃ e : InputFault, s.tabled name wells = .error e ∧ e.kind = .invalid

theorem tabulatesWells (bound : s.states.find? name = some ref)
    (found : s.optionalWells wells = .ok shown) (sized : (ref.view s.heap).SizedFor n)
    (count : ∀ ws ∈ shown, ws.size = n) :
    s.TabulatesWells name wells (shown.map (·.names)) (ref.view s.heap) n := by
  have named : ∀ ns ∈ shown.map (·.names), ns.length = n := by
    intro ns hns
    obtain ⟨ws, member, rfl⟩ := Option.mem_map.mp hns
    exact (List.length_map _).trans (count ws member)
  constructor
  · intro readable
    refine ⟨_, ?_, sized.transposed named readable⟩
    rw [tabled_eq bound found, sized.table named readable]
    rfl
  · intro unreadable
    obtain ⟨e, refused, invalid⟩ := sized.exists_refused unreadable (shown.map (·.names))
    refine ⟨e, ?_, invalid⟩
    rw [tabled_eq bound found, refused]
    rfl

/-- Whatever is written into a state of a session, its arrays stay as long as its wells ask for. -/
theorem sizedFor_run {commands : List Command} (kept : ∀ c ∈ commands, c.KeepsArrays name)
    (bound : (({} : Session).run commands).states.find? name = some ref) :
    (ref.view (({} : Session).run commands).heap).SizedFor
      (({} : Session).layoutAfter name {} commands).wells :=
  ((keepsLayout_empty.run kept).laidOut ref bound).sizedFor

/-- Two wells of one name, whose rates and one pressure are then written. -/
def twinWells : List Command :=
  [.plain (.makeWells "field" (.member 2)),
   .plain (.addWell "field" "A" (.member .producer) (.list [.int 0])),
   .plain (.control "field" 0 (.add (.member .bhp) (.float 2e7) .null)),
   .plain (.addWell "field" "A" (.member .injector) (.list [.int 1])),
   .plain (.control "field" 1 (.add (.member .bhp) (.float 3e7) .null)),
   .seed "state" (some "field") (.ofFloats [2.5e7, 2.5e7]) none,
   .plain (.unpack "state" (.ofFloats
    [2e7, 3e7, 2e7, 3e7, 0.0, 0.0, 300.0, 310.0, -1.0, -2.0, 3.0, 4.0])),
   .plain (.poke "state" .thp 1 (.float 1e6))]

theorem tabulatesWells_twinWells :
    ∃ ref shown, (({} : Session).run twinWells).states.find? "state" = some ref ∧
      (({} : Session).run twinWells).optionalWells (some "field") = .ok shown ∧
      (ref.view (({} : Session).run twinWells).heap).SizedFor 2 ∧
      (∀ ws ∈ shown, ws.size = 2) ∧ shown.map (·.names) = some ["A", "A"] ∧
      (ref.view (({} : Session).run twinWells).heap).Readable 2 ∧
      (({} : Session).run twinWells).TabulatesWells "state" (some "field") (shown.map (·.names))
        (ref.view (({} : Session).run twinWells).heap) 2 := by
  have kept : ∀ c ∈ twinWells, c.KeepsArrays "state" := by
    simp [twinWells, Command.KeepsArrays]
  have layout : ({} : Session).layoutAfter "state" {} twinWells = ⟨2, 2, 2⟩ := by
    decide +kernel
  obtain ⟨ref, bound⟩ := Option.isSome_iff_exists.mp
    (show ((({} : Session).run twinWells).states.find? "state").isSome = true by decide +kernel)
  have sized := sizedFor_run kept bound
  rw [layout] at sized
  obtain ⟨shown, made, names⟩ := Option.map_eq_some_iff.mp
    (show ((({} : Session).run twinWells).wellSets.find? "field").map (·.names) =
      some ["A", "A"] by decide +kernel)
  have found := optionalWells_of_bound made
  have count : ∀ ws ∈ some shown, ws.size = 2 := by
    rintro ws ⟨⟩
    exact (List.length_map _).symm.trans (congrArg List.length names)
  exact ⟨ref, some shown, bound, found, sized, count, congrArg some names,
    .inl Nat.zero_lt_two, tabulatesWells bound found sized count⟩

/-- A state of no wells, for a number of phases that is set before. -/
def phasesSet (phases : Int) : List Command :=
  [.plain (.makeWells "field" (.member 1)),
   .plain (.setPhases "field" (.member phases)),
   .seed "state" (some "field") (.list []) none]

/-- After some commands there is a state whose arrays are as long as no wells ask for, and which
has no table. -/
def RefusesEmpty (commands : List Command) : Prop :=
  ∃ ref, (({} : Session).run commands).states.find? "state" = some ref ∧
    (ref.view (({} : Session).run commands).heap).SizedFor 0 ∧
    ∃ e : InputFault, (({} : Session).run commands).tabled "state" none = .error e ∧
      e.kind = .invalid

/-- The table of no wells can be refused, for a number of phases below zero or a large one. -/
theorem not_transposed_phasesSet :
    RefusesEmpty (phasesSet (-1)) ∧ RefusesEmpty (phasesSet WellState.rowLimit) := by
  have empty {s : WellState} (bhp : s.bhp = .flat []) (thp : s.thp = .flat [])
      (temperature : s.temperature = .flat []) : ∀ f ∈ Field.tabled,
        ∃ xs, s.toArrays.get f = .flat xs ∧ xs.length = 0 := by
    intro f tabled
    simp only [Field.tabled, List.mem_cons, List.not_mem_nil, or_false] at tabled
    rcases tabled with rfl | rfl | rfl
    · exact ⟨[], bhp, rfl⟩
    · exact ⟨[], thp, rfl⟩
    · exact ⟨[], temperature, rfl⟩
  constructor
  · exact ⟨_, rfl, ⟨empty rfl rfl rfl, rfl⟩, .unequalLengths, rfl, rfl⟩
  · exact ⟨_, rfl, ⟨empty rfl rfl rfl, rfl⟩, .excessiveLength, rfl, rfl⟩

/-- The answer is the table of the state, which has the rows that are named. -/
theorem tabled_tableRows (bound : s.states.find? name = some ref)
    (found : s.optionalWells wells = .ok shown) (counted : 0 ≤ ref.phases) :
    s.tabled name wells =
        (((ref.view s.heap).table (shown.map (·.names))).mapError .input).map .table ∧
      (ref.view s.heap).TableRows (shown.map (·.names))
        ((ref.view s.heap).table (shown.map (·.names))) :=
  ⟨tabled_eq bound found, WellState.tableRows _ counted⟩

/-- A state of one well, and another set of two wells. -/
def otherWells : List Command :=
  [.plain (.makeWells "field" (.member 1)),
   .plain (.addWell "field" "A" (.member .producer) (.list [.int 0])),
   .plain (.control "field" 0 (.add (.member .bhp) (.float 2e7) .null)),
   .seed "state" (some "field") (.ofFloats [2.5e7]) none,
   .plain (.makeWells "other" (.member 1)),
   .plain (.addWell "other" "a" (.member .producer) (.list [])),
   .plain (.addWell "other" "b" (.member .producer) (.list []))]

theorem tabled_tableRows_otherWells :
    ∃ ref shown, (({} : Session).run otherWells).states.find? "state" = some ref ∧
      (({} : Session).run otherWells).optionalWells (some "other") = .ok shown ∧
      0 ≤ ref.phases ∧
      (({} : Session).run otherWells).tabled "state" (some "other") =
        (((ref.view (({} : Session).run otherWells).heap).table
          (shown.map (·.names))).mapError .input).map .table ∧
      (ref.view (({} : Session).run otherWells).heap).TableRows (shown.map (·.names))
        ((ref.view (({} : Session).run otherWells).heap).table (shown.map (·.names))) :=
  ⟨_, _, rfl, rfl, by decide, tabled_tableRows rfl rfl (by decide)⟩

/-- The table of one well has a row for each of two other ones. -/
theorem not_one_row_otherWells :
    ∃ ref t, (({} : Session).run otherWells).states.find? "state" = some ref ∧
      (ref.view (({} : Session).run otherWells).heap).size? = .ok 1 ∧
      (({} : Session).run otherWells).tabled "state" (some "other") = .ok (.table t) ∧
      t.index = [.name "a", .name "b"] ∧ ∀ c ∈ t.columns, c.2.length = 2 := by
  exact ⟨_, _, rfl, rfl, rfl, rfl, by decide +kernel⟩

end Session

end Reservoir
