import Reservoir.Proofs.Control.Distributed
import Reservoir.Proofs.State.ClosedForm

/-!
# From shares to rates

Under a surface rate an open well starts with its share of the target as the rate of every
phase. The shares that an added control holds are those that were given, be they proper or
indefinite, so that a NaN among them comes back as the rate of its phase. Shares that are proper
make no rate of a finite target a NaN.
-/

namespace Reservoir

/-- A well under a surface rate whose only share is a NaN. -/
def undefinedShare : WellSet where
  phases := .member 1
  wells :=
    [{ name := "A"
       role := .member .injector
       cells := [0]
       stack := (ControlStack.empty (some (.member 1))).push
        ⟨.member .surfaceRate, .member 1.0, some (.member [Datum.nan])⟩ }]

/-- Not only proper distributions are stored: the tests let a NaN pass, and it becomes a rate. -/
theorem not_proper_stored :
    (ControlStack.empty (some (.member 1))).run
          (.add (.member .surfaceRate) (.float 1.0) (.nest [1] [Datum.nan])) =
        ((ControlStack.empty (some (.member 1))).push
          ⟨.member .surfaceRate, .member 1.0, some (.member [Datum.nan])⟩, .ok (.position 0)) ∧
      ¬Proper (some 1) [Datum.nan] ∧
      ∃ state rate,
        (WellState.initial {} (some undefinedShare) (.ofFloats [2e7])).outcome = .ok state ∧
          state.wellRates.entries = [rate] ∧ rate.isNaN = true := by
  have undefined : Datum.nan.isNaN = true := rfl
  have indefinite : Indefinite (some 1) [Datum.nan] := by
    refine ⟨by simp, ⟨_, List.mem_cons_self, undefined⟩, ?_⟩
    intro x hx
    rw [List.mem_singleton.mp hx]
    exact .inl undefined
  refine ⟨?_, ?_, ?_⟩
  · have read : readDistribution (some (.member 1)) (.nest [1] [Datum.nan]) = .ok [Datum.nan] :=
      (readDistribution_nest_iff rfl).mpr ⟨rfl, distributes_iff.mpr (.inr indefinite), rfl⟩
    apply ControlStack.run_add_of_ok
    rw [ControlStack.readControl_of_ne_null (nest_ne_null _ _)]
    exact congrArg (Except.map _) read
  · intro proper
    cases undefined.symm.trans (proper.isNaN_eq_false Datum.nan List.mem_cons_self)
  · exact ⟨_, _, rfl, rfl, rfl⟩

end Reservoir
