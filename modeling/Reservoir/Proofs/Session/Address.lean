import Mathlib.Data.Option.Basic
import Reservoir.Proofs.Session.Layout
import Reservoir.Proofs.State.Address

/-!
# Records over a session

Tubing head pressures are not recorded. Whatever is written into them, entry by entry or as a
new array, the records and the offsets of all states of a session stay what they were, since
no recorded array is shared with them.
-/

namespace Reservoir

/-- Commands that write tubing head pressures. -/
def Command.WritesThp : Command → Prop
  | .plain (.poke _ field _ _) => field = .thp
  | .plain (.replace _ field _) => field = .thp
  | _ => False

namespace Session

/-- All states of two sessions give the same records, at the same offsets. -/
structure SameRecords (s t : Session) : Prop where
  pack : ∀ name, (t.step (.plain (.pack name))).2.outcome =
    (s.step (.plain (.pack name))).2.outcome
  offsets : ∀ name, (t.step (.plain (.offsets name))).2.outcome =
    (s.step (.plain (.offsets name))).2.outcome

/-- The states under one name in two sessions hold the same in all recorded arrays. -/
def SameArrays (s t : Session) (ref ref' : StateRef) : Prop :=
  ∀ f ∈ Field.recorded, (ref'.view t.heap).toArrays.get f = (ref.view s.heap).toArrays.get f

variable {s t : Session} {name : String}

theorem outcome_pack {ref : StateRef} (bound : s.states.find? name = some ref) :
    (s.step (.plain (.pack name))).2.outcome =
      ((ref.view s.heap).pack.mapError .input).map .values := by
  rw [outcome_step_plain]
  simp only [answer, view_of_bound bound, bind, Except.bind, showing]
  cases (ref.view s.heap).pack.mapError Fault.input <;> rfl

theorem view_of_unbound (unbound : s.states.find? name = none) :
    s.view name = .error (.unbound name) := by
  rw [view, Registry.get, unbound]
  rfl

theorem SameRecords.of_rel (h : ∀ name,
    Option.Rel (s.SameArrays t) (s.states.find? name) (t.states.find? name)) :
    s.SameRecords t := by
  have same : ∀ name,
      (t.step (.plain (.pack name))).2.outcome = (s.step (.plain (.pack name))).2.outcome ∧
        (t.step (.plain (.offsets name))).2.outcome =
          (s.step (.plain (.offsets name))).2.outcome := by
    intro name
    have related := h name
    generalize before : s.states.find? name = found at related
    generalize after : t.states.find? name = found' at related
    cases related with
    | none =>
        simp only [outcome_step_plain, answer, view_of_unbound before, view_of_unbound after]
        exact ⟨rfl, rfl⟩
    | some same =>
        rw [outcome_pack before, outcome_pack after, WellState.pack_congr same,
          outcome_offsets before, outcome_offsets after, WellState.offsets_congr same]
        exact ⟨rfl, rfl⟩
  exact ⟨fun name => (same name).1, fun name => (same name).2⟩

/-- Arrays that are read alike under a name. -/
theorem rel_of_read_eq (states : t.states.find? name = s.states.find? name)
    (same : ∀ ref, s.states.find? name = some ref → ∀ f ∈ Field.recorded,
      t.heap.read (ref.toArrays.get f) = s.heap.read (ref.toArrays.get f)) :
    Option.Rel (s.SameArrays t) (s.states.find? name) (t.states.find? name) := by
  rw [states]
  cases found : s.states.find? name with
  | none => exact .none
  | some ref =>
      refine .some fun f recorded => ?_
      show (ref.toArrays.map _).get f = (ref.toArrays.map _).get f
      rw [Arrays.get_map, Arrays.get_map]
      exact same ref found f recorded

/-- A command that writes tubing head pressures keeps what all recorded arrays hold. -/
theorem rel_of_change {command : Command} (separate : s.Separate)
    (change : s.Change command t) (thp : command.WritesThp) (name : String) :
    Option.Rel (s.SameArrays t) (s.states.find? name) (t.states.find? name) := by
  have unrecorded : ∀ f ∈ Field.recorded, f ≠ .thp := by
    rintro f recorded rfl
    exact absurd recorded (by decide)
  cases change with
  | @poke other field index value ref b bound written =>
      obtain rfl : field = .thp := thp
      apply rel_of_read_eq
      · rfl
      · intro found bound' f recorded
        apply Heap.read_write_of_ne
        intro shared
        exact unrecorded f recorded (separate.apart _ _ _ _ bound' bound f .thp shared).2
  | @replace other field values ref b bound read =>
      obtain rfl : field = .thp := thp
      by_cases same : other = name
      · subst same
        rw [bound, Registry.find?_insert_self]
        refine .some fun f recorded => ?_
        show ((ref.toArrays.set .thp _).map _).get f = (ref.toArrays.map _).get f
        rw [Arrays.get_map, Arrays.get_map, Arrays.get_set_of_ne _ _ (unrecorded f recorded)]
        exact Heap.read_alloc_of_lt b (separate.allocated _ _ bound f)
      · apply rel_of_read_eq
        · rw [Registry.find?_insert, if_neg same]
        · intro found bound' f _
          exact Heap.read_alloc_of_lt b (separate.allocated _ _ bound' f)
  | ask => exact rel_of_read_eq rfl fun _ _ _ _ => rfl
  | _ => cases thp

/-- Writing tubing head pressures, whether it succeeds or not, keeps all records. -/
theorem sameRecords_step {command : Command} (separate : s.Separate) (thp : command.WritesThp) :
    s.SameRecords (s.step command).1 := by
  apply SameRecords.of_rel
  intro name
  rcases step_cases s command with same | change
  · rw [same]
    exact rel_of_read_eq rfl fun _ _ _ _ => rfl
  · exact rel_of_change separate change thp name

/-- The addresses of records. Lists of any lengths have a record that the offsets address, and
so have the quantities of the wells that a state is made from. What is written into tubing head
pressures changes no record, and only negative lengths have no offsets. -/
theorem addresses_records :
    (∀ w : WellState, w.RecordPlain → ∃ o record, w.offsets = .ok o ∧
      w.pack = .ok (.flat record) ∧ w.Addressed o record) ∧
    (∀ (commands : List Command) (write : Command), write.WritesThp →
      (({} : Session).run commands).SameRecords ((({} : Session).run commands).step write).1) ∧
    (∀ (settings : Settings) (ws : WellSet) (given : Datum) (np : Nat) (w : WellState),
      WellState.readPhases ws.phases = .ok np →
      (WellState.initial settings (some ws) given).outcome = .ok w →
        ∃ o record, w.offsets = .ok o ∧ w.pack = .ok (.flat record) ∧
          w.Addressed o record ∧ w.AddressesWells ws np o record) ∧
    ∀ sizes : List Int, sizes.length = 5 →
      ((∃ cause, Offsets.read (sizes.map .int) = .error (.record cause)) ↔
        ∃ n ∈ sizes, n < 0) := by
  refine ⟨?_, ?_, ?_, ?_⟩
  · intro w plain
    exact WellState.exists_addressed plain
  · intro commands write thp
    exact sameRecords_step (separate_run commands) thp
  · intro settings ws given np w phases made
    exact WellState.exists_addressesWells phases made
  · intro sizes count
    exact Offsets.read_refuses_iff count

/-- A state whose tubing head pressures have two axes, without pressures of connections. -/
def unevenState : WellState where
  bhp := .flat [1.0]
  thp := .shaped [1, 2] [2.0, 3.0]
  temperature := .flat [4.0, 5.0]
  wellRates := .flat [6.0, 7.0, 8.0]
  perfRates := .flat [9.0]
  perfPress := .flat []
  settings := {}
  phases := 2

/-- The rate of the second phase of the second well stands at the end of a record. -/
theorem addresses_records_unevenState :
    (∃ o record, unevenState.offsets = .ok o ∧ unevenState.pack = .ok (.flat record) ∧
      unevenState.Addressed o record) ∧
    (({} : Session).run writtenState).SameRecords
      ((({} : Session).run writtenState).step (.plain (.poke "state" .thp 0 (.float 1e6)))).1 ∧
    (∃ w o record,
      (WellState.initial {} (some WellState.injectorAndProducer)
        (.ofFloats [2e7, 1e7])).outcome = .ok w ∧
      w.offsets = .ok o ∧ w.AddressesWells WellState.injectorAndProducer 2 o record ∧
      (Quantity.ofPhase 1 1).address? WellState.injectorAndProducer 2 o = some 11) ∧
    ∃ cause, Offsets.read ([2, 0, 0, -1, 4].map .int) = .error (.record cause) := by
  obtain ⟨state, session, first, sizes⟩ := addresses_records
  have plain : unevenState.RecordPlain := by
    intro f recorded
    cases f with
    | thp => exact absurd recorded (by decide)
    | bhp | temperature | wellRates | perfRates | perfPress => rfl
  refine ⟨state unevenState plain, session _ _ rfl, ?_, (sizes _ rfl).mpr ⟨-1, by decide⟩⟩
  obtain ⟨o, record, offsets, _, _, wells⟩ := first {} WellState.injectorAndProducer
    (.ofFloats [2e7, 1e7]) 2 _ rfl rfl
  refine ⟨_, o, record, rfl, offsets, wells, ?_⟩
  cases offsets
  rfl

end Session

end Reservoir
