import Reservoir.Proofs.Session.Change
import Reservoir.Proofs.State.Layout

/-!
# States that are made anew

Making a state anew either fails and leaves the session as it was, arrays and their handles
included, or it gives the state that would have been made in any other session, under any
other name, from the same wells, pressures and settings.
-/

namespace Reservoir

namespace Session

variable {s t : Session}

/-- A state that was bound is the one that its name stands for. -/
theorem view_bindState (s : Session) (name : String) (state : WellState) :
    (s.bindState name state).view name = .ok state := by
  have bound : (s.bindState name state).states.get name =
      .ok (StateRef.create s.heap state).2 :=
    Registry.get_eq_ok_iff.mpr (Registry.find?_insert_self ..)
  rw [view, bound]
  exact congrArg Except.ok (StateRef.view_create s.heap state)

/-- The settings of every state were asked for. -/
def SettingsAsked (s : Session) : Prop :=
  ∀ name ref, s.states.find? name = some ref →
    ∃ request : SettingsRequest, request.settings? = .ok ref.settings

theorem SettingsAsked.insert {name : String} {ref : StateRef} (h : s.SettingsAsked)
    (states : t.states = s.states.insert name ref)
    (asked : ∃ request : SettingsRequest, request.settings? = .ok ref.settings) :
    t.SettingsAsked := by
  intro other found bound
  rw [states, Registry.find?_insert] at bound
  split at bound
  · cases bound
    exact asked
  · exact h other found bound

theorem SettingsAsked.of_states_eq (h : s.SettingsAsked) (same : t.states = s.states) :
    t.SettingsAsked := by
  intro name ref bound
  rw [same] at bound
  exact h name ref bound

theorem SettingsAsked.change {command : Command} (h : s.SettingsAsked)
    (change : s.Change command t) : t.SettingsAsked := by
  cases change with
  | seed asked found made =>
      rw [← WellState.settings_of_initial made] at asked
      exact h.insert rfl ⟨_, asked⟩
  | reseed bound found made =>
      obtain ⟨request, asked⟩ := h _ _ bound
      rw [← WellState.settings_of_initial made] at asked
      exact h.insert rfl ⟨request, asked⟩
  | makeState asked => exact h.insert rfl ⟨_, asked⟩
  | replace bound read =>
      obtain ⟨request, asked⟩ := h _ _ bound
      exact h.insert rfl ⟨request, asked⟩
  | makeWells | addWell | control | setRole | setPhases => exact h.of_states_eq rfl
  | poke | pokeRate | hold | unpack | unpackFrom => exact h.of_states_eq rfl
  | ask => exact h

theorem settingsAsked_run (commands : List Command) :
    (({} : Session).run commands).SettingsAsked := by
  have allowed : ∀ c ∈ commands, True := fun _ _ => trivial
  exact run_induction (fun _ h change => h.change change) allowed nofun

/-- Making a state anew: refused, it leaves the whole session as it was. Answered, it gives the
first state of the wells under the settings of the state. Answer and state are those of a new
state made from the same wells with these settings, in any session and under any name. -/
structure Renews (s : Session) (name : String) (ref : StateRef) (wells : Option String)
    (pressure : Datum) : Prop where
  unchanged : ∀ e, (s.step (.reseed name wells pressure)).2.outcome = .error e →
    (s.step (.reseed name wells pressure)).1 = s
  first : ∀ reply, (s.step (.reseed name wells pressure)).2.outcome = .ok reply →
    ∃ ws state, s.optionalWells wells = .ok ws ∧
      (WellState.initial ref.settings ws pressure).outcome = .ok state ∧
      (s.step (.reseed name wells pressure)).1.view name = .ok state
  fresh : ∃ request : SettingsRequest, request.settings? = .ok ref.settings ∧
    ∀ (u : Session) (id : String), u.optionalWells wells = s.optionalWells wells →
      (u.step (.seed id wells pressure request)).2.outcome =
          (s.step (.reseed name wells pressure)).2.outcome ∧
        ∀ reply, (s.step (.reseed name wells pressure)).2.outcome = .ok reply →
          (u.step (.seed id wells pressure request)).1.view id =
            (s.step (.reseed name wells pressure)).1.view name

section Renews

variable {name : String} {ref : StateRef} {wells : Option String} {pressure : Datum}

theorem exists_initial_of_reseed {reply : Reply} (bound : s.states.find? name = some ref)
    (answered : (s.step (.reseed name wells pressure)).2.outcome = .ok reply) :
    ∃ ws state, s.optionalWells wells = .ok ws ∧
      (WellState.initial ref.settings ws pressure).outcome = .ok state ∧
      (s.step (.reseed name wells pressure)).1.view name = .ok state := by
  rw [step_reseed bound] at answered ⊢
  rcases settle_cases s name ref.settings wells pressure with
    ⟨_, failed, _⟩ | ⟨ws, state, _, found, made, _, _, after⟩
  · cases failed.symm.trans answered
  · rw [after]
    exact ⟨ws, state, found, made, view_bindState s name state⟩

/-- A new state of the same wells is made exactly as a state that is made anew. -/
theorem seed_eq_reseed {u : Session} {request : SettingsRequest}
    (bound : s.states.find? name = some ref) (asked : request.settings? = .ok ref.settings)
    (same : u.optionalWells wells = s.optionalWells wells) (id : String) :
    (u.step (.seed id wells pressure request)).2.outcome =
        (s.step (.reseed name wells pressure)).2.outcome ∧
      ∀ reply, (s.step (.reseed name wells pressure)).2.outcome = .ok reply →
        (u.step (.seed id wells pressure request)).1.view id =
          (s.step (.reseed name wells pressure)).1.view name := by
  have first : u.firstState ref.settings wells pressure =
      s.firstState ref.settings wells pressure := by
    rw [firstState, firstState, same]
  rw [step_reseed bound, step_seed asked, first]
  rw [settle, settle]
  cases (s.firstState ref.settings wells pressure).outcome with
  | error e =>
      refine ⟨rfl, fun _ answered => ?_⟩
      cases answered
  | ok state =>
      refine ⟨rfl, fun _ _ => ?_⟩
      rw [view_bindState, view_bindState]

end Renews

/-- Making a state anew is all or nothing, and what it makes does not depend on the past. -/
theorem reseed_all_or_nothing (commands : List Command) {name : String} {ref : StateRef}
    (bound : (({} : Session).run commands).states.find? name = some ref)
    (wells : Option String) (pressure : Datum) :
    (({} : Session).run commands).Renews name ref wells pressure := by
  obtain ⟨request, asked⟩ := settingsAsked_run commands name ref bound
  exact ⟨fun _ => (allOrNothing_reseed ..).eq_of_error, fun _ => exists_initial_of_reseed bound,
    request, asked, fun _ id same => seed_eq_reseed bound asked same id⟩

/-- A state of two wells, one of which was given an unknown role afterwards. -/
def editedWells : List Command :=
  [.plain (.makeWells "field" (.member 2)),
   .plain (.addWell "field" "A" (.member .producer) (.list [])),
   .plain (.control "field" 0 (.add (.member .bhp) (.float 2e7) .null)),
   .plain (.addWell "field" "B" (.member .injector) (.list [])),
   .plain (.control "field" 1 (.add (.member .thp) (.float 3e6) .null)),
   .seed "state" (some "field") .null none,
   .plain (.setRole "field" 1 (.other (.text "observer")))]

theorem reseed_all_or_nothing_editedWells :
    ∃ ref, (({} : Session).run editedWells).states.find? "state" = some ref ∧
      (({} : Session).run editedWells).Renews "state" ref (some "field") .null := by
  obtain ⟨ref, bound⟩ := Option.isSome_iff_exists.mp
    (show ((({} : Session).run editedWells).states.find? "state").isSome = true by decide +kernel)
  exact ⟨ref, bound, reseed_all_or_nothing editedWells bound (some "field") .null⟩

end Session

end Reservoir
