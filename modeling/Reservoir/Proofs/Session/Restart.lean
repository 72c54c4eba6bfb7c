import Reservoir.Proofs.Datum.Nested
import Reservoir.Proofs.Session.Separate
import Reservoir.Proofs.State.Record

/-!
# Restart records of the states of a session

A record is read into the arrays that a state has: no array is replaced, and none but the
recorded arrays of that state is written. A record that fits is the record of the state
afterwards; any other one is refused and leaves the session as it was.

This is so for states whose arrays are plain lists, and for records nested up to the admitted
depth. A deeper record is refused for its depth, whatever its length. An array that is a column
cannot take its part of a record, when the arrays before it have been written already.
-/

namespace Reservoir

/-- Two states are equal when they agree on all arrays and on what is not an array. -/
theorem WellState.ext_get {s t : WellState} (arrays : ∀ f, s.toArrays.get f = t.toArrays.get f)
    (settings : s.settings = t.settings) (phases : s.phases = t.phases) : s = t := by
  have same := Arrays.ext_get arrays
  cases s
  cases t
  cases same
  cases settings
  cases phases
  rfl

namespace Session

variable {s t : Session} {name : String} {ref : StateRef}

/-- A state through which its recorded arrays were written is the state that was written. -/
theorem Separate.view_writeFields (separate : s.Separate)
    (bound : s.states.find? name = some ref) {state : WellState}
    (settings : state.settings = ref.settings) (phases : state.phases = ref.phases)
    (thp : state.thp = (ref.view s.heap).thp) :
    ref.view (s.heap.writeFields Field.recorded ref.toArrays state.toArrays) = state := by
  apply WellState.ext_get _ settings.symm phases.symm
  intro f
  change (ref.toArrays.map _).get f = _
  rw [Arrays.get_map]
  by_cases recorded : f ∈ Field.recorded
  · exact Heap.read_writeFields_of_mem (separate.allocated name ref bound)
      (fun f g same => (separate.apart name ref name ref bound bound f g same).2) recorded
  · have kept : ∀ g ∈ Field.recorded, ref.toArrays.get f ≠ ref.toArrays.get g := by
      intro g hg same
      exact recorded ((separate.apart name ref name ref bound bound f g same).2 ▸ hg)
    rw [Heap.read_writeFields_of_forall_ne kept]
    -- The tubing head pressures are the only field that is not recorded.
    cases f with
    | thp => exact thp.symm
    | _ => exact absurd (by decide) recorded

/-- The session after a record was read into a state. The arrays of all states are the same
ones as before, and none but the recorded ones of that state holds anything else. -/
structure RecordRead (s t : Session) (ref : StateRef) (record : List Float) : Prop where
  states : t.states = s.states
  restored : (ref.view s.heap).Restored (ref.view t.heap) record
  others : ∀ a, (∀ f ∈ Field.recorded, a ≠ ref.toArrays.get f) → t.heap.read a = s.heap.read a

/-- A command reads a record into a state exactly when the record has as many entries as the
recorded arrays together. If not, it is refused and changes nothing. -/
structure ReadsRecord (s : Session) (ref : StateRef) (command : Command) (record : List Float) :
    Prop where
  answered_iff : (∃ reply, (s.step command).2.outcome = .ok reply) ↔
    record.length = (ref.view s.heap).recordLength
  read : ∀ reply, (s.step command).2.outcome = .ok reply →
    s.RecordRead (s.step command).1 ref record
  refused : ∀ e, (s.step command).2.outcome = .error e →
    e = .record (.size record.length (ref.view s.heap).recordLength) ∧ (s.step command).1 = s

/-- A record of the right length is read into the arrays of a state. -/
theorem unpack_of_length (separate : s.Separate) (bound : s.states.find? name = some ref)
    (plain : (ref.view s.heap).Plain) {record : List Float}
    (length : record.length = (ref.view s.heap).recordLength) :
    ∃ t v, s.unpack name record = .ok (t, .ok (.state v)) ∧ s.RecordRead t ref record := by
  obtain ⟨state, unpacked, restored⟩ := WellState.unpack_of_length plain length
  have after := separate.view_writeFields bound restored.settings restored.phases restored.thp
  have answer : s.unpack name record = .ok
      ({ s with heap := s.heap.writeFields Field.recorded ref.toArrays state.toArrays },
        .ok (.state ⟨state.toArrays.lengthOf .bhp, state.phases, state.toArrays⟩)) := by
    rw [unpack, Registry.get_eq_ok_iff.mpr bound]
    simp only [bind, Except.bind, unpacked, after, WellState.view_of_plain restored.plain]
    rfl
  have others : ∀ a, (∀ f ∈ Field.recorded, a ≠ ref.toArrays.get f) →
      (s.heap.writeFields Field.recorded ref.toArrays state.toArrays).read a = s.heap.read a :=
    fun a other => Heap.read_writeFields_of_forall_ne other
  rw [← after] at restored
  exact ⟨_, _, answer, rfl, restored, others⟩

/-- A record of another length is refused before anything is written. -/
theorem unpack_of_length_ne (bound : s.states.find? name = some ref)
    (plain : (ref.view s.heap).RecordPlain) {record : List Float}
    (length : record.length ≠ (ref.view s.heap).recordLength) :
    s.unpack name record =
      .error (.record (.size record.length (ref.view s.heap).recordLength)) := by
  rw [unpack, Registry.get_eq_ok_iff.mpr bound]
  simp only [bind, Except.bind, WellState.unpack_of_length_ne plain length]

theorem readsRecord_of_answer (separate : s.Separate) (bound : s.states.find? name = some ref)
    (plain : (ref.view s.heap).Plain) {command : PlainCommand} {record : List Float}
    (answer : s.answer command = s.unpack name record) :
    s.ReadsRecord ref (.plain command) record := by
  by_cases length : record.length = (ref.view s.heap).recordLength
  · obtain ⟨t, v, unpacked, read⟩ := unpack_of_length separate bound plain length
    have performed : (s.perform (.plain command)).outcome = .ok (t, .ok (.state v)) :=
      answer.trans unpacked
    obtain ⟨after, outcome⟩ := step_of_ok performed
    refine ⟨iff_of_true ⟨_, outcome⟩ length, fun _ _ => after.symm ▸ read, ?_⟩
    intro e failed
    cases outcome.symm.trans failed
  · have performed : (s.perform (.plain command)).outcome = .error _ :=
      answer.trans (unpack_of_length_ne bound plain.recordPlain length)
    have outcome := outcome_step_of_error performed
    refine ⟨iff_of_false ?_ length, ?_, ?_⟩
    · rintro ⟨reply, answered⟩
      cases outcome.symm.trans answered
    · intro reply answered
      cases outcome.symm.trans answered
    · intro e failed
      cases outcome.symm.trans failed
      exact ⟨rfl, step_of_error performed⟩

theorem answer_unpack (bound : s.states.find? name = some ref) {record : Datum}
    {xs : List Float} (read : record.floats = .ok xs) :
    s.answer (.unpack name record) = s.unpack name xs := by
  simp only [answer, Registry.get_eq_ok_iff.mpr bound, read, Except.mapError, bind, Except.bind]

theorem answer_unpackFrom_of_pack (bound : s.states.find? name = some ref) {source : String}
    {other : StateRef} (found : s.states.find? source = some other) {record : Block Float}
    (packed : (other.view s.heap).pack = .ok record) :
    s.answer (.unpackFrom name source) = s.unpack name record.entries := by
  simp only [answer, view, Registry.get_eq_ok_iff.mpr bound, Registry.get_eq_ok_iff.mpr found,
    packed, Except.mapError, bind, Except.bind, pure, Except.pure]

theorem answer_unpackFrom (bound : s.states.find? name = some ref) {source : String}
    {other : StateRef} (found : s.states.find? source = some other)
    (plain : (other.view s.heap).Plain) :
    s.answer (.unpackFrom name source) =
      s.unpack name ((other.view s.heap).toArrays.valuesOf Field.recorded) :=
  answer_unpackFrom_of_pack bound found (WellState.pack_of_plain plain)

/-- Records written into a state. Any entries, nested in any shape of admitted depth, are read
in the order in which they are laid out. The record of a state whose arrays have the same
lengths is read too, and then the recorded arrays hold what they hold in that state. -/
structure TakesRecords (s : Session) (name : String) (ref : StateRef) : Prop where
  record : ∀ (shape : List Nat) (xs : List Float), xs.length = volume shape →
    shape.length ≤ Datum.depthLimit →
      s.ReadsRecord ref (.plain (.unpack name (Datum.nest shape xs))) xs
  copy : ∀ (source : String) (other : StateRef), s.states.find? source = some other →
    (other.view s.heap).Plain →
    (∀ f ∈ Field.recorded,
      (other.view s.heap).lengthOf f = (ref.view s.heap).lengthOf f) →
    ∃ reply, (s.step (.plain (.unpackFrom name source))).2.outcome = .ok reply ∧
      ∀ f ∈ Field.recorded,
        (ref.view (s.step (.plain (.unpackFrom name source))).1.heap).toArrays.get f =
          (other.view s.heap).toArrays.get f

/-- Plain arrays that were read from the record of others of the same lengths hold the same. -/
theorem RecordRead.get_eq {other : WellState} (plain : other.Plain)
    (lengths : ∀ f ∈ Field.recorded, other.lengthOf f = (ref.view s.heap).lengthOf f)
    (read : s.RecordRead t ref (other.valuesOf Field.recorded)) :
    ∀ f ∈ Field.recorded, (ref.view t.heap).toArrays.get f = other.toArrays.get f := by
  have restored := read.restored
  have packed := (WellState.pack_of_plain restored.plain).symm.trans restored.pack
  have values : (ref.view t.heap).valuesOf Field.recorded = other.valuesOf Field.recorded :=
    Block.flat.inj (Except.ok.inj packed)
  have kept : ∀ f ∈ Field.recorded, (ref.view t.heap).lengthOf f = other.lengthOf f :=
    fun f hf => (restored.length f).trans (lengths f hf).symm
  intro f hf
  rw [restored.plain f, plain f]
  exact congrArg Block.flat (Arrays.eq_of_valuesOf_eq kept values f hf)

/-- Every state whose arrays are plain lists takes records, whatever was done before. -/
theorem takesRecords_run (commands : List Command) {name : String} {ref : StateRef}
    (bound : (({} : Session).run commands).states.find? name = some ref)
    (plain : (ref.view (({} : Session).run commands).heap).Plain) :
    (({} : Session).run commands).TakesRecords name ref := by
  have separate := separate_run commands
  generalize ({} : Session).run commands = s at bound plain separate
  refine ⟨?_, ?_⟩
  · intro shape xs length depth
    exact readsRecord_of_answer separate bound plain
      (answer_unpack bound (Datum.floats_nest length depth))
  · intro source other found plainOther lengths
    have reads := readsRecord_of_answer separate bound plain
      (answer_unpackFrom bound found plainOther)
    have fits : ((other.view s.heap).valuesOf Field.recorded).length =
        (ref.view s.heap).recordLength := by
      rw [Arrays.valuesOf, List.length_flatMap, WellState.recordLength]
      exact congrArg List.sum (List.map_congr_left lengths)
    obtain ⟨reply, answered⟩ := reads.answered_iff.mpr fits
    exact ⟨reply, answered, (reads.read reply answered).get_eq plainOther lengths⟩

/-- Two states with arrays of unequal lengths, the recorded ones of the same lengths in both. -/
def replacedStates : List Command :=
  [.plain (.makeState "state" none),
   .plain (.replace "state" .bhp (.list [.float 2e7, .float 1e7])),
   .plain (.replace "state" .temperature (.list [.float 288.15])),
   .plain (.replace "state" .wellRates (.list [.float 0.0, .float 1.0, .float 2.0])),
   .plain (.replace "state" .thp (.list [.float 3e6])),
   .plain (.makeState "source" none),
   .plain (.replace "source" .bhp (.list [.float 1.5, .float 2.5])),
   .plain (.replace "source" .temperature (.list [.float 300.0])),
   .plain (.replace "source" .wellRates (.list [.float 3.5, .float 4.5, .float 5.5]))]

theorem takesRecords_run_replacedStates :
    ∃ ref, (({} : Session).run replacedStates).states.find? "state" = some ref ∧
      (ref.view (({} : Session).run replacedStates).heap).Plain ∧
        (({} : Session).run replacedStates).TakesRecords "state" ref := by
  obtain ⟨ref, bound, plain⟩ : ∃ ref ∈ (({} : Session).run replacedStates).states.find? "state",
      (ref.view (({} : Session).run replacedStates).heap).Plain := by decide +kernel
  exact ⟨ref, bound, plain, takesRecords_run replacedStates bound plain⟩

/-- A state with one pressure, and a state with one pressure and a column of two temperatures. -/
def columnStates : List Command :=
  [.plain (.makeState "deep" none),
   .plain (.replace "deep" .bhp (.list [.float 0.0])),
   .plain (.makeState "column" none),
   .plain (.replace "column" .bhp (.list [.float 0.0])),
   .plain (.replace "column" .temperature (.list [.list [.float 1.0], .list [.float 2.0]]))]

/-- Reading a record is never refused for what the record is made of. -/
theorem not_readsRecord_of_input {command : Command} {record : List Float} {e : InputFault}
    (refused : (s.step command).2.outcome = .error (.input e)) :
    ¬s.ReadsRecord ref command record := by
  intro reads
  cases (reads.refused _ refused).1

theorem outcome_unpack_of_error (bound : s.states.find? name = some ref) {record : Datum}
    {e : InputFault} (refused : record.floats = .error e) :
    (s.step (.plain (.unpack name record))).2.outcome = .error (.input e) := by
  have answered : s.answer (.unpack name record) = .error (.input e) := by
    simp only [answer, Registry.get_eq_ok_iff.mpr bound, refused, Except.mapError, bind,
      Except.bind]
  exact outcome_step_of_error answered

/-- A record of the right length is refused when it is nested too deep, and when an array of the
state is no plain list. -/
theorem not_readsRecord_deep_or_column :
    (∃ ref, (({} : Session).run columnStates).states.find? "deep" = some ref ∧
      (ref.view (({} : Session).run columnStates).heap).Plain ∧
      (ref.view (({} : Session).run columnStates).heap).recordLength = 1 ∧
      ¬(({} : Session).run columnStates).ReadsRecord ref
        (.plain (.unpack "deep" (Datum.nest (List.replicate 65 1) [1.5]))) [1.5]) ∧
    ∃ ref, (({} : Session).run columnStates).states.find? "column" = some ref ∧
      (ref.view (({} : Session).run columnStates).heap).recordLength = 3 ∧
      ¬(({} : Session).run columnStates).ReadsRecord ref
        (.plain (.unpack "column" (Datum.nest [3] [1.5, 2.5, 3.5]))) [1.5, 2.5, 3.5] := by
  constructor
  · obtain ⟨ref, bound, plain, length⟩ :
        ∃ ref ∈ (({} : Session).run columnStates).states.find? "deep",
          (ref.view (({} : Session).run columnStates).heap).Plain ∧
            (ref.view (({} : Session).run columnStates).heap).recordLength = 1 := by
      decide +kernel
    have deep : (Datum.nest (List.replicate 65 1) [1.5]).floats = .error .irregular :=
      Datum.floats_nest_of_deep (by decide +kernel) _
    exact ⟨ref, bound, plain, length,
      not_readsRecord_of_input (outcome_unpack_of_error bound deep)⟩
  · obtain ⟨ref, bound, length⟩ :
        ∃ ref ∈ (({} : Session).run columnStates).states.find? "column",
          (ref.view (({} : Session).run columnStates).heap).recordLength = 3 := by
      decide +kernel
    have refused : ((({} : Session).run columnStates).step
        (.plain (.unpack "column" (Datum.nest [3] [1.5, 2.5, 3.5])))).2.outcome =
          .error (.input .unequalLengths) := by
      rfl
    exact ⟨ref, bound, length, not_readsRecord_of_input refused⟩

end Session

end Reservoir
