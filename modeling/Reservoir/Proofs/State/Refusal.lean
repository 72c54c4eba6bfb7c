import Reservoir.Proofs.State.ClosedForm

/-!
# Which well keeps a set from being initialized

Wells may have been edited by hand: their role may be no role, the active position may be that
of no control, and the shares of a surface rate need not be those of the phases. A well is
refused for the first of a list of tests that it fails, `Well.refusal?`, and a set of wells for
the first well that is refused. Up to that well every well is reported with its first pressures
and rates.
-/

namespace Reservoir

namespace Well

/-- The shares of the active control, as they were given or checked. -/
def activeShares? (w : Well) : Option (List Float) := do
  let c ← w.activeControl?
  let shares ← c.shares
  shares.member?

/-- The first test that a well fails. Its role has to be one, and the active position that of a
control, or negative. If it is open under a surface rate, it needs a share for each phase. Under
no control, or under a rate, it needs a first cell that has a pressure. -/
def refusal? (phases : Nat) (pressure : List Float) (w : Well) : Option Fault :=
  match w.role with
  | .other given => some (.well (.unknownRole w.name given))
  | .member _ =>
    if w.stack.controls.length ≤ w.stack.active then some (.input .noPosition)
    else if w.stack.stopped = false ∧ w.activeKind? = some .surfaceRate ∧
        w.activeShares?.map List.length ≠ some phases then
      some (.control (.unmatchedPhases w.name phases))
    else if w.activeKind? ∈ [none, some .reservoirRate, some .surfaceRate] then
      (w.ambientFault? pressure).map .well
    else none

variable {w : Well} {phases : Nat} {pressure : List Float}

end Well

namespace Seed

/-- What is reported of a well: its name, its role, whether it is open, and the first pressures
and rates of the table. -/
inductive RecordOf (settings : Settings) (phases : Nat) (pressure : List Float) :
    Well → Event → Prop
  | mk {w : Well} {role : Role} {s : Seed} (role_eq : w.role = .member role)
      (values : s.Describes settings phases pressure w) :
      RecordOf settings phases pressure w (.wellInitialized w.name role.word
        (if w.stack.stopped then "stopped" else "open") s.bhp s.thp s.rates)

/-- The warning about a well, if there is one. -/
def warning? (settings : Settings) (w : Well) : Option String :=
  if settings.warnOnZeroPressure then (zeroPressure? w).map (zeroWarning w) else none

variable {settings : Settings} {phases : Nat} {pressure : List Float}

/-- The wells before the first one that is refused. -/
def accepted (phases : Nat) (pressure : List Float) (ws : List Well) : List Well :=
  ws.takeWhile fun w => (w.refusal? phases pressure).isNone

variable {w : Well} {ws : List Well}

end Seed

/-- An attempt to initialize wells. It is refused for the first well that is, and otherwise
succeeds. The wells before a refusal are reported, and after all of them the success. -/
structure WellSet.Initializes {α : Type} (ws : WellSet) (np : Nat) (settings : Settings)
    (pressure : List Float) (r : Reported α) : Prop where
  ok_iff : (∃ a, r.outcome = .ok a) ↔ ∀ w ∈ ws.wells, w.refusal? np pressure = none
  error_iff : ∀ e, r.outcome = .error e ↔ ws.wells.findSome? (Well.refusal? np pressure) = some e
  events : ∃ records, List.Forall₂ (Seed.RecordOf settings np pressure)
      (Seed.accepted np pressure ws.wells) records ∧
    ((∃ e, r.outcome = .error e) → r.journal.events = records) ∧
    ((∃ a, r.outcome = .ok a) →
      r.journal.events = records ++ [.stateInitialized ws.size ws.totalConnections])
  warnings : r.journal.warnings =
    (Seed.accepted np pressure ws.wells).filterMap (Seed.warning? settings)

namespace WellSet

variable {α β : Type} {settings : Settings} {ws : WellSet} {np : Nat} {pressure : List Float}
  {r : Reported α}

theorem initializes_of_error {e : Fault} (outcome : r.outcome = .error e)
    (found : ws.wells.findSome? (Well.refusal? np pressure) = some e)
    (records : List.Forall₂ (Seed.RecordOf settings np pressure)
      (Seed.accepted np pressure ws.wells) r.journal.events)
    (warnings : r.journal.warnings =
      (Seed.accepted np pressure ws.wells).filterMap (Seed.warning? settings)) :
    ws.Initializes np settings pressure r := by
  refine ⟨?_, ?_, ⟨r.journal.events, records, fun _ => rfl, ?_⟩, warnings⟩
  · constructor
    · rintro ⟨a, made⟩
      cases outcome.symm.trans made
    · intro none
      rw [List.findSome?_eq_none_iff.mpr none] at found
      cases found
  · intro d
    rw [outcome, found, Except.error.injEq, Option.some.injEq]
  · rintro ⟨a, made⟩
    cases outcome.symm.trans made

theorem initializes_of_ok {a : α} {records : List Event} (outcome : r.outcome = .ok a)
    (none : ws.wells.findSome? (Well.refusal? np pressure) = none)
    (each : List.Forall₂ (Seed.RecordOf settings np pressure)
      (Seed.accepted np pressure ws.wells) records)
    (events : r.journal.events = records ++ [.stateInitialized ws.size ws.totalConnections])
    (warnings : r.journal.warnings =
      (Seed.accepted np pressure ws.wells).filterMap (Seed.warning? settings)) :
    ws.Initializes np settings pressure r := by
  refine ⟨iff_of_true ⟨a, outcome⟩ (List.findSome?_eq_none_iff.mp none), ?_,
    ⟨records, each, ?_, fun _ => events⟩, warnings⟩
  · intro d
    rw [outcome, none]
    exact iff_of_false nofun nofun
  · rintro ⟨e, failed⟩
    cases outcome.symm.trans failed

/-- What is answered for a first state has no part in how the wells are initialized. -/
theorem Initializes.map (h : ws.Initializes np settings pressure r) (f : α → β) :
    ws.Initializes np settings pressure (r.map f) := by
  obtain ⟨journal, outcome⟩ := r
  cases outcome with
  | error e =>
      obtain ⟨records, each, events, _⟩ := h.events
      rw [← events ⟨e, rfl⟩] at each
      exact initializes_of_error rfl ((h.error_iff e).mp rfl) each h.warnings
  | ok a =>
      obtain ⟨records, each, _, events⟩ := h.events
      have none := List.findSome?_eq_none_iff.mpr (h.ok_iff.mp ⟨a, rfl⟩)
      exact initializes_of_ok rfl none each (events ⟨a, rfl⟩) h.warnings

end WellSet

namespace WellState

variable {ws : WellSet} {np : Nat}

end WellState

end Reservoir
