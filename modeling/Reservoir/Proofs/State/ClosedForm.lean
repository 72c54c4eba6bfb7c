import Reservoir.Proofs.Datum.Plain
import Reservoir.Proofs.State.Populated

/-!
# The first state of a set of wells in closed form

The outcome of an initialization is that of its wells, one by one; the journal has no part in
it. `WellState.initial_closed_form` reads the arrays of a first state entry by entry: the
entries of a well are those of the table in `Reservoir.Proofs.State.Seed`, and the rate of
phase `p` of well `n` stands at `np * n + p`.
-/

namespace Reservoir

namespace WellState

/-- The pressure field is read if there are wells, and otherwise no well asks for it. -/
theorem readPressure_ofFloats (settings : Settings) (ws : WellSet) (np : Nat)
    (pressure : List Float) :
    ∃ field, readPressure ws (.ofFloats pressure) = .ok field ∧
      Seed.all settings np field ws.wells = Seed.all settings np pressure ws.wells := by
  cases hws : ws.wells with
  | nil =>
      refine ⟨[], ?_, rfl⟩
      rw [readPressure, hws]
      rfl
  | cons w wells =>
      refine ⟨pressure, ?_, rfl⟩
      rw [readPressure, hws, if_neg (by simp)]
      exact Datum.floats_ofFloats pressure

theorem zeroRates_of_lt {wells np : Nat} (small : np * wells < rateLimit) :
    ∃ rates, zeroRates wells np = .ok rates := by
  have counted : ¬(wells * np : Int) < 0 :=
    Int.not_lt.mpr (Int.mul_nonneg (Int.natCast_nonneg _) (Int.natCast_nonneg _))
  have possible : ¬rateLimit ≤ (wells * np : Int) := by
    rw [Int.mul_comm]
    exact Int.not_le.mpr small
  exact ⟨_, by rw [zeroRates, if_neg counted, if_neg possible]⟩

/-- Under a flat pressure field wells that share a number of phases are initialized one by one,
and then their number is reported. -/
theorem initial_ofFloats {ws : WellSet} {np : Nat} (phases : readPhases ws.phases = .ok np)
    (small : np * ws.size < rateLimit) (settings : Settings) (pressure : List Float) :
    initial settings (some ws) (.ofFloats pressure) =
      (Seed.all settings np pressure ws.wells).andThen fun seeds =>
        ⟨.event (.stateInitialized ws.size ws.totalConnections),
          .ok (ofSeeds settings np ws seeds)⟩ := by
  obtain ⟨field, read, same⟩ := readPressure_ofFloats settings ws np pressure
  obtain ⟨rates, made⟩ := zeroRates_of_lt small
  rw [initial_some, result_populate, phases]
  simp only [made, read, Except.mapError, Reported.bind_def, Reported.andThen_ofExcept_ok,
    Int.toNat_natCast, same]
  rfl

/-- The outcome for wells that share a number of phases, under a flat pressure field. -/
theorem outcome_initial {settings : Settings} {ws : WellSet} {np : Nat}
    (phases : readPhases ws.phases = .ok np) (small : np * ws.size < rateLimit)
    (pressure : List Float) :
    (initial settings (some ws) (.ofFloats pressure)).outcome =
      (ws.wells.mapM (Seed.ofWell settings np pressure)).map (ofSeeds settings np ws) := by
  rw [initial_ofFloats phases small, ← Reported.bind_def, Reported.outcome_bind,
    Seed.outcome_all]
  cases ws.wells.mapM (Seed.ofWell settings np pressure) <;> rfl

/-- An open injector under a surface rate, with a pressure control beside it, and a stopped
producer under a tubing head pressure. -/
def injectorAndProducer : WellSet where
  phases := .member 2
  wells :=
    [{ name := "I"
       role := .member .injector
       cells := [1, 0]
       stack :=
        { phases := some (.member 2)
          controls :=
            [{ kind := .member .surfaceRate, target := .member 100.0,
               shares := some (.member [0.25, 0.75]) },
             { kind := .member .thp, target := .member 5e6 }]
          active := 0 } },
     { name := "P"
       role := .member .producer
       cells := []
       stack :=
        { phases := some (.member 2)
          controls := [{ kind := .member .thp, target := .member 3e6 }]
          active := 0
          stopped := true } }]

end WellState

end Reservoir
