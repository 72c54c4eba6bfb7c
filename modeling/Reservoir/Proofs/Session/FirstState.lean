import Reservoir.Proofs.Session.Change
import Reservoir.Proofs.State.Layout
import Reservoir.Proofs.State.Refusal

/-!
# First states of the wells of a session

A command that makes a state from wells, or makes one anew, reports and answers what
initializing the wells does, whatever else the session holds. Only a set of wells with more
rates than an array can have is refused before its wells are looked at.
-/

namespace Reservoir

/-- A first state has plain arrays. -/
theorem WellState.plain_of_initial {settings : Settings} {wells : Option WellSet} {given : Datum}
    {state : WellState} (h : (initial settings wells given).outcome = .ok state) : state.Plain := by
  cases wells with
  | none =>
      cases h
      exact (laidOut_blank settings).plain
  | some ws =>
      obtain ⟨phases, _, seeds, _, _, _, _, rfl⟩ := exists_seeds_of_initial h
      exact plain_ofSeeds settings phases ws seeds

namespace Session

open WellState (rateLimit)

variable {s : Session} {settings : Settings} {ws : WellSet} {np : Nat} {pressure : List Float}

theorem optionalWells_of_bound {wells : String} (bound : s.wellSets.find? wells = some ws) :
    s.optionalWells (some wells) = .ok (some ws) := by
  rw [optionalWells, Registry.get_eq_ok_iff.mpr bound]
  rfl

theorem firstState_of_bound {wells : String} (bound : s.wellSets.find? wells = some ws)
    (settings : Settings) (pressure : Datum) :
    s.firstState settings (some wells) pressure =
      WellState.initial settings (some ws) pressure := by
  rw [firstState, optionalWells_of_bound bound, Reported.bind_def, Reported.andThen_ofExcept_ok]

/-- A first state is shown as it was made. -/
theorem settle_initial (name : String) (wells : Option WellSet) (given : Datum) :
    (s.settle name (WellState.initial settings wells given)).2 =
      (WellState.initial settings wells given).map fun state =>
        .state ⟨state.toArrays.lengthOf .bhp, state.phases, state.toArrays⟩ := by
  rw [settle, Reported.map]
  cases outcome : (WellState.initial settings wells given).outcome with
  | error e => rfl
  | ok state =>
      simp only [WellState.view_of_plain (WellState.plain_of_initial outcome)]
      rfl

end Session

end Reservoir
