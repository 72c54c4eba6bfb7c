import Reservoir.Proofs.State.Populated
import Reservoir.Session.Basic

/-!
# First states that are made, and made anew

A first state of wells is made as a new object, or made anew in an object of the session, which is
then written field by field. `Session.settle` says what either comes to: the session is left as it
was, or the name stands for the state that was made, all of its arrays new.
-/

namespace Reservoir

/-- The settings that a request asks for. -/
def SettingsRequest.settings? (request : SettingsRequest) : Except Fault Settings := do
  let given ← request.read
  given.settings.mapError .input

/-- A first state can be shown. -/
theorem WellState.exists_view_of_initial {settings : Settings} {wells : Option WellSet}
    {given : Datum} {state : WellState} (h : (initial settings wells given).outcome = .ok state) :
    ∃ v, state.view = .ok v := by
  cases wells with
  | none =>
      cases h
      exact ⟨_, rfl⟩
  | some ws =>
      obtain ⟨_, _, _, _, _, _, _, rfl⟩ := exists_seeds_of_initial h
      exact ⟨_, rfl⟩

/-- A state on a heap that is given all fields of another state is that state, put on the heap. -/
theorem HeldState.adopted_eq {ref : StateRef} {state : WellState}
    (same : state.settings = ref.settings) (h : Heap) :
    WellState.adopted state (HeldState.mk h ref) =
      ⟨(StateRef.create h state).1, (StateRef.create h state).2⟩ := by
  obtain ⟨arrays, settings, phases⟩ := ref
  cases same
  rfl

namespace Session

variable {s : Session}

/-- The first state of the wells under a name. -/
def firstState (s : Session) (settings : Settings) (wells : Option String) (pressure : Datum) :
    Reported WellState := do
  let ws ← Reported.ofExcept (s.optionalWells wells)
  WellState.initial settings ws pressure

/-- A session in which a name stands for a state, if the state can be made. -/
def settle (s : Session) (name : String) (made : Reported WellState) :
    Session × Reported Reply :=
  match made.outcome with
  | .error e => (s, ⟨made.journal, .error e⟩)
  | .ok state =>
    (s.bindState name state, ⟨made.journal, (state.view.mapError .input).map .state⟩)

theorem outcome_firstState_eq_ok_iff {settings : Settings} {wells : Option String}
    {pressure : Datum} {state : WellState} :
    (s.firstState settings wells pressure).outcome = .ok state ↔
      ∃ ws, s.optionalWells wells = .ok ws ∧
        (WellState.initial settings ws pressure).outcome = .ok state := by
  rw [firstState, Reported.outcome_bind, Reported.outcome_ofExcept]
  exact bind_eq_ok_iff

/-- A first state that cannot be made leaves the session as it was. One that can be made is then
what the name stands for, and is shown. -/
theorem settle_cases (s : Session) (name : String) (settings : Settings) (wells : Option String)
    (pressure : Datum) :
    let r := s.settle name (s.firstState settings wells pressure)
    (∃ e, r.2.outcome = .error e ∧ r.1 = s) ∨
      ∃ ws state v, s.optionalWells wells = .ok ws ∧
        (WellState.initial settings ws pressure).outcome = .ok state ∧
        state.view = .ok v ∧ r.2.outcome = .ok (.state v) ∧ r.1 = s.bindState name state := by
  intro r
  cases outcome : (s.firstState settings wells pressure).outcome with
  | error e => exact .inl ⟨e, by simp only [r, settle, outcome], by simp only [r, settle, outcome]⟩
  | ok state =>
      obtain ⟨ws, found, made⟩ := outcome_firstState_eq_ok_iff.mp outcome
      obtain ⟨v, view⟩ := WellState.exists_view_of_initial made
      refine .inr ⟨ws, state, v, found, made, view, ?_, ?_⟩
      · simp only [r, settle, outcome, view]
        rfl
      · simp only [r, settle, outcome]

theorem exists_error_of_seed {request : SettingsRequest} {e : Fault}
    (refused : request.settings? = .error e) (s : Session) (id : String)
    (wells : Option String) (pressure : Datum) :
    ∃ d, (s.perform (.seed id wells pressure request)).outcome = .error d := by
  simp only [perform, seed, Reported.outcome_bind, Reported.outcome_ofExcept]
  cases read : request.read with
  | error d => exact ⟨d, rfl⟩
  | ok given =>
      cases s.optionalWells wells with
      | error d => exact ⟨d, rfl⟩
      | ok ws =>
          rw [SettingsRequest.settings?, read] at refused
          have numbers : given.settings.mapError .input = .error e := refused
          refine ⟨e, ?_⟩
          show (given.settings.mapError Fault.input).bind _ = _
          rw [numbers]
          rfl

/-- A new state is made under the settings that are asked for. -/
theorem step_seed {request : SettingsRequest} {settings : Settings}
    (asked : request.settings? = .ok settings) (s : Session) (id : String)
    (wells : Option String) (pressure : Datum) :
    s.step (.seed id wells pressure request) =
      s.settle id (s.firstState settings wells pressure) := by
  obtain ⟨given, read, numbers⟩ := bind_eq_ok_iff.mp asked
  rw [step, settle, firstState]
  simp only [perform, seed, read, numbers, Reported.bind_def, Reported.andThen_ofExcept_ok]
  cases s.optionalWells wells with
  | error e => rfl
  | ok ws =>
      simp only [Reported.andThen_ofExcept_ok]
      have shown : ∀ state, (WellState.initial settings ws pressure).outcome = .ok state →
          ∃ v, state.view = .ok v := fun _ => WellState.exists_view_of_initial
      generalize WellState.initial settings ws pressure = made at shown ⊢
      obtain ⟨journal, outcome⟩ := made
      cases outcome with
      | error e => rfl
      | ok state =>
          obtain ⟨v, view⟩ := shown state rfl
          simp only [Reported.andThen, view]
          exact congrArg (fun journal => (s.bindState id state, Reported.mk journal _))
            (Journal.append_nil journal)

/-- A state that is made anew is made under its own settings. -/
theorem step_reseed {name : String} {ref : StateRef} (bound : s.states.find? name = some ref)
    (wells : Option String) (pressure : Datum) :
    s.step (.reseed name wells pressure) =
      s.settle name (s.firstState ref.settings wells pressure) := by
  rw [step, settle, firstState]
  simp only [perform, reseed, Registry.get_eq_ok_iff.mpr bound, Reported.bind_def,
    Reported.andThen_ofExcept_ok]
  cases s.optionalWells wells with
  | error e => rfl
  | ok ws =>
      simp only [Reported.andThen_ofExcept_ok]
      cases outcome : (WellState.initial ref.settings ws pressure).outcome with
      | error e =>
          rw [WellState.run_init_of_error (s := HeldState.mk s.heap ref) outcome]
          show (({ s with states := s.states.insert name ref } : Session), _) = _
          rw [Registry.insert_of_find? bound]
          rfl
      | ok state =>
          rw [WellState.run_init_of_ok (s := HeldState.mk s.heap ref) outcome,
            HeldState.adopted_eq (WellState.settings_of_initial outcome)]
          simp only [HeldState.view, StateRef.view_create]
          cases state.view <;> rfl

end Session

end Reservoir
