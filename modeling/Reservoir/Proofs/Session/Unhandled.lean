import Reservoir.Proofs.Session.FirstState

/-!
# Wells under a control of no known kind

A control that was added unchecked may have any value for its kind. A stopped well under such a
control is refused for the kind, by name. An open well never gets there: its pressure targets
are read first, and then the kind is asked whether it is one of a pressure, which a value of
another sort does not answer. Either way nothing is changed.
-/

namespace Reservoir

/-- A well with a role whose active control has a value for its kind that names none. The null
value counts as no kind. -/
structure Well.Unhandled (w : Well) (given : Datum) : Prop where
  role : ∃ role, w.role = .member role
  kind : w.stack.activeKind = .ok (some (.other given))

theorem ControlStack.exists_control_of_activeKind {stack : ControlStack} {given : Datum}
    (h : stack.activeKind = .ok (some (.other given))) :
    given ≠ .null ∧ ∃ c, stack.activeControl = .ok (some c) ∧ c.kind = .other given := by
  obtain ⟨active, found, h⟩ := bind_eq_ok_iff.mp h
  cases active with
  | none => cases h
  | some c =>
      obtain ⟨kind, target, shares⟩ := c
      cases kind with
      | member k => cases h
      | other value =>
          cases value with
          | null => cases h
          | _ =>
              cases h
              exact ⟨nofun, _, found, rfl⟩

namespace Seed

/-- What keeps a well under no known kind from being initialized. -/
def unhandledFault (settings : Settings) (w : Well) (given : Datum) : Fault :=
  if w.stack.stopped then .control (.unhandledKind w.name given)
  else match lastTargets settings.unsetPressure w.stack.controls with
    | .error e => .input e
    | .ok _ => .input .noPressureTest

variable {settings : Settings} {phases : Nat} {pressure : List Float} {w : Well} {given : Datum}

theorem stopped_of_unhandled (h : w.Unhandled given) :
    stopped settings phases pressure w = .error (.control (.unhandledKind w.name given)) := by
  obtain ⟨some, c, active, kind⟩ := ControlStack.exists_control_of_activeKind h.kind
  rw [stopped, active]
  cases given with
  | null => exact absurd rfl some
  | _ =>
      simp only [bind, Except.bind, kind]
      rfl

/-- The targets of an open well are read before its kind is looked at. -/
theorem flowing_of_unhandled (h : w.Unhandled given) (role : Role) :
    flowing settings phases pressure w role =
      match lastTargets settings.unsetPressure w.stack.controls with
      | .error e => .error (.input e)
      | .ok _ => .error (.input .noPressureTest) := by
  obtain ⟨some, c, active, kind⟩ := ControlStack.exists_control_of_activeKind h.kind
  rw [flowing, active]
  cases lastTargets settings.unsetPressure w.stack.controls with
  | error e =>
      simp only [bind, Except.bind, kind]
      rfl
  | ok targets =>
      cases given with
      | null => exact absurd rfl some
      | _ =>
          simp only [bind, Except.bind, kind]
          rfl

theorem ofWell_of_unhandled (h : w.Unhandled given) :
    ofWell settings phases pressure w = .error (unhandledFault settings w given) := by
  obtain ⟨role, member⟩ := h.role
  rw [ofWell, Well.requireRole, member, unhandledFault]
  change (if w.stack.stopped then stopped settings phases pressure w
    else flowing settings phases pressure w role) = _
  split
  · exact stopped_of_unhandled h
  · rw [flowing_of_unhandled h]
    split <;> rfl

end Seed

namespace WellSet

/-- The first well of a set that cannot be initialized: all those before it can. -/
def FirstRefused (ws : WellSet) (np : Nat) (settings : Settings) (pressure : List Float)
    (w : Well) : Prop :=
  ∃ front rest, ws.wells = front ++ w :: rest ∧
    (∀ v ∈ front, ∃ seed, Seed.ofWell settings np pressure v = .ok seed) ∧
    ∃ e, Seed.ofWell settings np pressure w = .error e

end WellSet

namespace Session

open WellState (rateLimit)

/-- A command that is refused for a well under no known kind. -/
structure RefusesUnhandled (s : Session) (command : Command) (settings : Settings) (w : Well)
    (given : Datum) : Prop where
  stopped : w.stack.stopped = true →
    (s.step command).2.outcome = .error (.control (.unhandledKind w.name given))
  flowing : w.stack.stopped = false → ∃ e, (s.step command).2.outcome = .error (.input e) ∧
    ∀ targets, Seed.lastTargets settings.unsetPressure w.stack.controls = .ok targets →
      e = .noPressureTest
  unchanged : (s.step command).1 = s

variable {s : Session} {settings : Settings} {ws : WellSet} {np : Nat} {pressure : List Float}
  {w : Well} {given : Datum}

theorem refusesUnhandled_of_step {command : Command} {name : String}
    (phases : WellState.readPhases ws.phases = .ok np) (small : np * ws.size < rateLimit)
    (first : ws.FirstRefused np settings pressure w) (unhandled : w.Unhandled given)
    (step : s.step command =
      s.settle name (WellState.initial settings (some ws) (.ofFloats pressure))) :
    s.RefusesUnhandled command settings w given := by
  obtain ⟨front, rest, split, before, _⟩ := first
  have wells : ws.wells.mapM (Seed.ofWell settings np pressure) =
      .error (Seed.unhandledFault settings w given) :=
    mapM_eq_error_iff.mpr ⟨front, w, rest, split, before, Seed.ofWell_of_unhandled unhandled⟩
  have failed : (WellState.initial settings (some ws) (.ofFloats pressure)).outcome =
      .error (Seed.unhandledFault settings w given) := by
    rw [WellState.outcome_initial phases small, wells]
    rfl
  have outcome : (s.step command).2.outcome =
      .error (Seed.unhandledFault settings w given) := by
    rw [step, settle_initial, Reported.outcome_map, failed]
    rfl
  have unchanged : (s.step command).1 = s := by
    rw [step, settle]
    simp only [failed]
  rw [Seed.unhandledFault] at outcome
  refine ⟨?_, ?_, unchanged⟩
  · intro shut
    rw [outcome, if_pos shut]
  · intro flow
    rw [outcome, if_neg (by rw [flow]; exact Bool.false_ne_true)]
    split
    · next e unread =>
      refine ⟨e, rfl, fun targets read => ?_⟩
      cases unread.symm.trans read
    · exact ⟨_, rfl, fun _ _ => rfl⟩

/-- When the first well of a set that cannot be initialized is under a control of no known kind,
a stopped one is refused for its kind, and an open one for a question that its kind does not
answer. -/
theorem step_refusesUnhandled (s : Session) {wells : String}
    (bound : s.wellSets.find? wells = some ws)
    (phases : WellState.readPhases ws.phases = .ok np) (small : np * ws.size < rateLimit)
    (unhandled : w.Unhandled given) (pressure : List Float) :
    (∀ (request : SettingsRequest) (settings : Settings), request.settings? = .ok settings →
      ws.FirstRefused np settings pressure w →
        ∀ id, s.RefusesUnhandled (.seed id (some wells) (.ofFloats pressure) request) settings w
          given) ∧
    ∀ (name : String) (ref : StateRef), s.states.find? name = some ref →
      ws.FirstRefused np ref.settings pressure w →
        s.RefusesUnhandled (.reseed name (some wells) (.ofFloats pressure)) ref.settings w
          given := by
  constructor
  · intro request settings asked first id
    apply refusesUnhandled_of_step phases small first unhandled
    rw [step_seed asked, firstState_of_bound bound]
  · intro name ref known first
    apply refusesUnhandled_of_step phases small first unhandled
    rw [step_reseed known, firstState_of_bound bound]

/-- A producer under a bottom hole pressure, and a well whose active control has the word for a
kind in place of the kind, with a control without any number beside it. -/
def misnamedSet (stopped : Bool) : WellSet where
  phases := .member 2
  wells :=
    [{ name := "A", role := .member .producer, cells := [0],
       stack := { controls := [⟨.member .bhp, .member 1e7, none⟩], active := 0 } },
     { name := "B", role := .member .injector, cells := [1],
       stack :=
        { controls := [⟨.other .null, .other .null, none⟩,
            ⟨.other (.text "bhp"), .member 1e7, none⟩],
          active := 1, stopped } }]

theorem firstRefused_misnamedSet (stopped : Bool) :
    ∃ w, (misnamedSet stopped).FirstRefused 2 {} [1e7, 2e7] w ∧ w.Unhandled (.text "bhp") ∧
      w.name = "B" ∧ w.stack.stopped = stopped := by
  cases stopped
  all_goals
    refine ⟨_, ⟨[_], [], rfl, ?_, _, rfl⟩, ⟨⟨_, rfl⟩, rfl⟩, rfl, rfl⟩
    intro v hv
    rw [List.mem_singleton.mp hv]
    exact ⟨_, rfl⟩

theorem bound_misnamedSet (stopped : Bool) :
    (({} : Session).bindWells "field" (misnamedSet stopped)).wellSets.find? "field" =
      some (misnamedSet stopped) :=
  Registry.find?_insert_self ..

theorem step_refusesUnhandled_misnamedSet :
    ∃ w, (misnamedSet true).FirstRefused 2 {} [1e7, 2e7] w ∧ w.Unhandled (.text "bhp") ∧
      (({} : Session).bindWells "field" (misnamedSet true)).RefusesUnhandled
        (.seed "state" (some "field") (.ofFloats [1e7, 2e7]) none) {} w (.text "bhp") := by
  obtain ⟨w, first, unhandled, _⟩ := firstRefused_misnamedSet true
  exact ⟨w, first, unhandled, (step_refusesUnhandled _ (bound_misnamedSet true) rfl (by decide)
    unhandled [1e7, 2e7]).1 none {} rfl first "state"⟩

/-- The same well is not refused as one under an unhandled kind when it is open. -/
theorem not_unhandledKind_misnamedSet :
    ∃ w, (misnamedSet false).FirstRefused 2 {} [1e7, 2e7] w ∧ w.Unhandled (.text "bhp") ∧
      ∃ e, ((({} : Session).bindWells "field" (misnamedSet false)).step
          (.seed "state" (some "field") (.ofFloats [1e7, 2e7]) none)).2.outcome = .error e ∧
        e ≠ .control (.unhandledKind w.name (.text "bhp")) ∧ e.kind = .inapplicable := by
  obtain ⟨w, first, unhandled, _⟩ := firstRefused_misnamedSet false
  exact ⟨w, first, unhandled, _, rfl, nofun, rfl⟩

end Session

end Reservoir
