import Mathlib.Data.List.Induction
import Reservoir.State.Seed

/-!
# The first state of a well, entry by entry

The entries of a seed are given here as a table over the operation of the well: stopped or
open, and the kind it is operated under. `Well.fault?` is the first thing that keeps a well
from being initialized. `Seed.ofWell_of_fault` and `Seed.ofWell_of_no_fault` say that the
seed is refused with that fault, and otherwise made with the entries of the table.

Targets have to be doubles and distributions flat lists of doubles, as in every control that
was checked when it was added.
-/

namespace Reservoir

/-- A control whose numbers are given as numbers. -/
structure Control.Numeric (c : Control) : Prop where
  target : ∃ x, c.target = .member x
  shares : ∀ v, c.shares = some v → ∃ xs, v = .member xs

/-- All controls of a stack have numbers. -/
def ControlStack.Numeric (s : ControlStack) : Prop :=
  ∀ c ∈ s.controls, c.Numeric

theorem ControlStack.mem_of_activeControl {s : ControlStack} {c : Control}
    (h : s.activeControl = .ok (some c)) : c ∈ s.controls := by
  rw [ControlStack.activeControl] at h
  split at h
  · cases h
  · split at h
    · next found =>
      cases h
      exact List.mem_of_getElem? found
    · cases h

/-- The target of the last control of a kind in a list of controls. -/
def Seed.lastTarget? (kind : ControlKind) (controls : List Control) : Option Float :=
  (controls.filter fun c => decide (c.kind.member? = some kind)).getLast?.bind
    (·.target.member?)

namespace Well

variable (w : Well)

/-- The control that a well is operated under. -/
def activeControl? : Option Control :=
  match w.stack.activeControl with
  | .ok c => c
  | .error _ => none

/-- The kind that a well is operated under. -/
def activeKind? : Option ControlKind :=
  w.activeControl?.bind (·.kind.member?)

def activeTarget? : Option Float :=
  w.activeControl?.bind (·.target.member?)

/-- The share of a phase under the active control. -/
def activeShare? (phase : Nat) : Option Float := do
  let c ← w.activeControl?
  let shares ← c.shares
  let values ← shares.member?
  values[phase]?

variable {w} in
theorem activeControl?_eq {c : Option Control} (h : w.stack.activeControl = .ok c) :
    w.activeControl? = c := by
  rw [activeControl?, h]

variable {w} in
theorem activeKind?_of_none (h : w.stack.activeControl = .ok none) : w.activeKind? = none := by
  rw [activeKind?, activeControl?_eq h]
  rfl

variable {w} in
theorem activeKind?_of_some {c : Control} (h : w.stack.activeControl = .ok (some c)) :
    w.activeKind? = c.kind.member? := by
  rw [activeKind?, activeControl?_eq h]
  rfl

variable {w} in
theorem activeTarget?_of_some {c : Control} (h : w.stack.activeControl = .ok (some c)) :
    w.activeTarget? = c.target.member? := by
  rw [activeTarget?, activeControl?_eq h]
  rfl

/-- The target of the last control of a kind. -/
def lastTarget? (kind : ControlKind) : Option Float :=
  Seed.lastTarget? kind w.stack.controls

/-- The ambient pressure at the first cell of a well. -/
def topPressure? (pressure : List Float) : Option Float :=
  match w.cells with
  | [] => none
  | c :: _ => if 0 ≤ c then pressure[c.toNat]? else none

/-- The first rate of a phase. -/
def firstRate? (settings : Settings) (phase : Nat) : Option Float :=
  if w.stack.stopped then some 0.0
  else match w.activeKind? with
    | some .surfaceRate => do
      let target ← w.activeTarget?
      let share ← w.activeShare? phase
      pure (target * share)
    | _ => w.role.member?.map fun role => role.sign * settings.smallRate

/-- The first bottom hole pressure. -/
def firstBhp? (settings : Settings) (pressure : List Float) : Option Float :=
  match w.stack.stopped, w.activeKind? with
  | true, some .bhp => w.activeTarget?
  | true, some .thp => some 0.0
  | true, _ => w.topPressure? pressure
  | false, some .bhp => some ((w.lastTarget? .bhp).getD settings.unsetPressure)
  | false, some .thp => some ((w.lastTarget? .bhp).getD settings.unsetPressure)
  | false, _ => do
    let role ← w.role.member?
    let p ← w.topPressure? pressure
    pure (Seed.factor settings role * p)

/-- The first tubing head pressure. -/
def firstThp? (settings : Settings) : Option Float :=
  match w.stack.stopped, w.activeKind? with
  | true, some .bhp => some 0.0
  | true, some .thp => w.activeTarget?
  | true, _ => some settings.unsetPressure
  | false, _ => some ((w.lastTarget? .thp).getD settings.unsetPressure)

/-- What keeps a well from the ambient pressure of its first cell. -/
def ambientFault? (pressure : List Float) : Option WellFault :=
  match w.cells with
  | [] => some (.noConnections w.name)
  | c :: _ =>
    if 0 ≤ c ∧ c < pressure.length then none
    else some (.noAmbientPressure w.name c pressure.length)

/-- What keeps the shares of a control from being rates of the phases. -/
def sharesFault? (phases : Nat) (c : Control) : Option ControlFault :=
  match c.shares with
  | some (.member values) =>
    if values.length = phases then none else some (.unmatchedPhases w.name phases)
  | _ => some (.unmatchedPhases w.name phases)

/-- What keeps a well from being initialized under a control. -/
def activeFault? (phases : Nat) (pressure : List Float) (c : Control) : Option Fault :=
  match c.kind with
  | .member .bhp => none
  | .member .thp => none
  | .member .reservoirRate => (w.ambientFault? pressure).map .well
  | .member .surfaceRate =>
    match w.stack.stopped, w.sharesFault? phases c with
    | false, some e => some (.control e)
    | _, _ => (w.ambientFault? pressure).map .well
  | .other .null => (w.ambientFault? pressure).map .well
  | .other given =>
    if w.stack.stopped then some (.control (.unhandledKind w.name given))
    else some (.input .noPressureTest)

/-- The first thing that keeps a well from being initialized. -/
def fault? (phases : Nat) (pressure : List Float) : Option Fault :=
  match w.role with
  | .other given => some (.well (.unknownRole w.name given))
  | .member _ =>
    match w.stack.activeControl with
    | .error e => some e
    | .ok none => (w.ambientFault? pressure).map .well
    | .ok (some c) => w.activeFault? phases pressure c

/-- Wells under no control, or under one that fixes no pressure. -/
def TakesAmbient : Prop :=
  w.activeKind? ≠ some .bhp ∧ w.activeKind? ≠ some .thp

variable {w} {settings : Settings} {pressure : List Float}

theorem firstBhp?_of_stopped (shut : w.stack.stopped = true) (ambient : w.TakesAmbient) :
    w.firstBhp? settings pressure = w.topPressure? pressure := by
  rw [firstBhp?, shut]
  split <;> simp_all [TakesAmbient]

theorem firstThp?_of_stopped (shut : w.stack.stopped = true) (ambient : w.TakesAmbient) :
    w.firstThp? settings = some settings.unsetPressure := by
  rw [firstThp?, shut]
  split <;> simp_all [TakesAmbient]

theorem firstBhp?_of_flowing {role : Role} {p : Float} (flow : w.stack.stopped = false)
    (hrole : w.role = .member role) (ambient : w.TakesAmbient)
    (top : w.topPressure? pressure = some p) :
    w.firstBhp? settings pressure = some (Seed.factor settings role * p) := by
  rw [firstBhp?, flow]
  split <;> simp_all [TakesAmbient]

theorem firstThp?_of_flowing (flow : w.stack.stopped = false) :
    w.firstThp? settings = some ((w.lastTarget? .thp).getD settings.unsetPressure) := by
  rw [firstThp?, flow]

end Well

namespace Seed

/-- A seed whose entries are those of the table. -/
structure Describes (s : Seed) (settings : Settings) (phases : Nat) (pressure : List Float)
    (w : Well) : Prop where
  bhp : some s.bhp = w.firstBhp? settings pressure
  thp : some s.thp = w.firstThp? settings
  length_rates : s.rates.length = phases
  rate : ∀ p < phases, s.rates[p]? = w.firstRate? settings p

variable {settings : Settings} {phases : Nat} {pressure : List Float} {w : Well}

theorem ambientPressure_of_fault {e : WellFault} (h : w.ambientFault? pressure = some e) :
    ambientPressure pressure w = .error e := by
  rw [Well.ambientFault?] at h
  rw [ambientPressure, Well.firstCell]
  cases hc : w.cells with
  | nil =>
      simp only [hc, Option.some.injEq] at h
      subst h
      rfl
  | cons c cells =>
      simp only [hc] at h
      split at h
      · cases h
      · next outside =>
        cases h
        have none : (if c < 0 then none else pressure[c.toNat]?) = none := by
          split
          · rfl
          · exact List.getElem?_eq_none (by omega)
        simp only [bind, Except.bind, none]
        rfl

theorem ambientPressure_of_no_fault (h : w.ambientFault? pressure = none) :
    ∃ p, w.topPressure? pressure = some p ∧ ambientPressure pressure w = .ok p := by
  rw [Well.ambientFault?] at h
  rw [ambientPressure, Well.firstCell, Well.topPressure?]
  cases hc : w.cells with
  | nil => simp [hc] at h
  | cons c cells =>
      simp only [hc] at h
      split at h
      · next inside =>
        have hlt : c.toNat < pressure.length := by omega
        have read := List.getElem?_eq_getElem hlt
        refine ⟨pressure[c.toNat], by simp [inside.1, read], ?_⟩
        simp only [bind, Except.bind, if_neg (Int.not_lt.mpr inside.1), read]
        rfl
      · cases h

/-- An attempt at a seed that ends in the given fault, or without one in the seed of the
table. -/
def Attempt (settings : Settings) (phases : Nat) (pressure : List Float) (w : Well)
    (fault : Option Fault) (r : Except Fault Seed) : Prop :=
  match fault with
  | some e => r = .error e
  | none => ∃ s, r = .ok s ∧ s.Describes settings phases pressure w

/-- A seed made from the ambient pressure is an attempt that only the ambient pressure can
end. -/
theorem attempt_ambient (f : Float → Seed)
    (h : ∀ p, w.topPressure? pressure = some p → (f p).Describes settings phases pressure w) :
    Attempt settings phases pressure w ((w.ambientFault? pressure).map .well) (do
      let p ← (ambientPressure pressure w).mapError .well
      pure (f p)) := by
  cases hf : w.ambientFault? pressure with
  | some e =>
      change _ = Except.error _
      rw [ambientPressure_of_fault hf]
      rfl
  | none =>
      obtain ⟨p, top, read⟩ := ambientPressure_of_no_fault hf
      refine ⟨f p, ?_, h p top⟩
      rw [read]
      rfl

theorem describes_stopped {s : Seed} (stopped : w.stack.stopped = true)
    (rates : s.rates = List.replicate phases 0.0)
    (bhp : some s.bhp = w.firstBhp? settings pressure) (thp : some s.thp = w.firstThp? settings) :
    s.Describes settings phases pressure w := by
  refine ⟨bhp, thp, by rw [rates, List.length_replicate], ?_⟩
  intro p hp
  rw [rates, List.getElem?_replicate_of_lt hp, Well.firstRate?, if_pos stopped]

theorem attempt_stopped_ambient (shut : w.stack.stopped = true) (ambient : w.TakesAmbient) :
    Attempt settings phases pressure w ((w.ambientFault? pressure).map .well) (do
      let p ← (ambientPressure pressure w).mapError .well
      pure { bhp := p, thp := settings.unsetPressure, rates := List.replicate phases 0.0 }) := by
  apply attempt_ambient
  intro p top
  apply describes_stopped shut rfl
  · rw [Well.firstBhp?_of_stopped shut ambient, top]
  · rw [Well.firstThp?_of_stopped shut ambient]

/-- A stopped well is initialized by its active control alone. -/
theorem attempt_stopped (numeric : w.stack.Numeric) (shut : w.stack.stopped = true) {role : Role}
    (hrole : w.role = .member role) :
    Attempt settings phases pressure w (w.fault? phases pressure)
      (stopped settings phases pressure w) := by
  rw [Well.fault?, stopped, hrole]
  cases hactive : w.stack.activeControl with
  | error e => exact rfl
  | ok active =>
      cases active with
      | none =>
          have idle := Well.activeKind?_of_none hactive
          exact attempt_stopped_ambient shut (by simp [Well.TakesAmbient, idle])
      | some c =>
          obtain ⟨x, target⟩ := (numeric c (ControlStack.mem_of_activeControl hactive)).target
          have kind := Well.activeKind?_of_some hactive
          have number := Well.activeTarget?_of_some hactive
          have pressed : c.pressure = .ok x := by rw [Control.pressure, target]
          change Attempt settings phases pressure w (w.activeFault? phases pressure c) _
          rw [Well.activeFault?]
          cases hkind : c.kind with
          | member k =>
              rw [hkind] at kind
              rw [target] at number
              cases k with
              | bhp =>
                  refine ⟨⟨x, 0.0, List.replicate phases 0.0⟩, ?_, describes_stopped shut rfl ?_ ?_⟩
                  · simp only [bind, Except.bind, hkind, pressed]
                    rfl
                  · simp [Well.firstBhp?, shut, kind, number]
                  · simp [Well.firstThp?, shut, kind]
              | thp =>
                  refine ⟨⟨0.0, x, List.replicate phases 0.0⟩, ?_, describes_stopped shut rfl ?_ ?_⟩
                  · simp only [bind, Except.bind, hkind, pressed]
                    rfl
                  · simp [Well.firstBhp?, shut, kind]
                  · simp [Well.firstThp?, shut, kind, number]
              | reservoirRate =>
                  simp only [bind, Except.bind, hkind]
                  exact attempt_stopped_ambient shut (by simp [Well.TakesAmbient, kind])
              | surfaceRate =>
                  simp only [bind, Except.bind, hkind, shut]
                  exact attempt_stopped_ambient shut (by simp [Well.TakesAmbient, kind])
          | other given =>
              rw [hkind] at kind
              cases given with
              | null =>
                  simp only [bind, Except.bind, hkind]
                  exact attempt_stopped_ambient shut (by simp [Well.TakesAmbient, kind])
              | _ =>
                  simp only [bind, Except.bind, hkind, shut, if_true]
                  exact rfl

theorem lastTarget?_append_self {kind : ControlKind} {c : Control} {x : Float}
    (controls : List Control) (hkind : c.kind = .member kind) (target : c.target = .member x) :
    lastTarget? kind (controls ++ [c]) = some x := by
  simp [lastTarget?, hkind, target]

theorem lastTarget?_append_of_ne {kind : ControlKind} {c : Control} (controls : List Control)
    (hkind : c.kind.member? ≠ some kind) :
    lastTarget? kind (controls ++ [c]) = lastTarget? kind controls := by
  simp [lastTarget?, hkind]

/-- Of all pressure controls of a kind the last one counts. The induction takes controls off
the end of the stack, where the fold looks last. -/
theorem lastTargets_eq {controls : List Control} (numeric : ∀ c ∈ controls, c.Numeric)
    (unset : Float) :
    lastTargets unset controls = .ok
      ((lastTarget? .bhp controls).getD unset, (lastTarget? .thp controls).getD unset) := by
  induction controls using List.reverseRecOn with
  | nil => rfl
  | append_singleton controls c ih =>
      have before := ih fun d hd => numeric d (by simp [hd])
      obtain ⟨x, target⟩ := (numeric c (by simp)).target
      have pressed : c.pressure = .ok x := by rw [Control.pressure, target]
      rw [lastTargets] at before ⊢
      rw [List.foldlM_append, before]
      cases hkind : c.kind with
      | member k =>
          cases k with
          | bhp =>
              rw [lastTarget?_append_self controls hkind target,
                lastTarget?_append_of_ne controls (by simp [hkind])]
              simp [bind, Except.bind, hkind, pressed, pure, Except.pure]
          | thp =>
              rw [lastTarget?_append_self controls hkind target,
                lastTarget?_append_of_ne controls (by simp [hkind])]
              simp [bind, Except.bind, hkind, pressed, pure, Except.pure]
          | _ =>
              rw [lastTarget?_append_of_ne controls (by simp [hkind]),
                lastTarget?_append_of_ne controls (by simp [hkind])]
              simp [bind, Except.bind, hkind, pure, Except.pure]
      | other given =>
          rw [lastTarget?_append_of_ne controls (by simp [hkind]),
            lastTarget?_append_of_ne controls (by simp [hkind])]
          simp [bind, Except.bind, hkind, pure, Except.pure]

theorem surfaceRates_of_fault {c : Control} {e : ControlFault} (numeric : c.Numeric)
    (h : w.sharesFault? phases c = some e) : surfaceRates phases w c = .error (.control e) := by
  rw [Well.sharesFault?] at h
  rw [surfaceRates]
  cases hshares : c.shares with
  | none =>
      simp only [hshares, Option.some.injEq] at h
      subst h
      rfl
  | some v =>
      obtain ⟨values, rfl⟩ := numeric.shares v hshares
      simp only [hshares] at h
      split at h
      · cases h
      · next length =>
        cases h
        simp only [if_neg length]
        rfl

theorem surfaceRates_of_no_fault {c : Control} {x : Float} (target : c.target = .member x)
    (h : w.sharesFault? phases c = none) :
    ∃ values, c.shares = some (.member values) ∧ values.length = phases ∧
      surfaceRates phases w c = .ok (values.map (x * ·)) := by
  rw [Well.sharesFault?] at h
  rw [surfaceRates]
  split at h
  · next values hshares =>
    split at h
    · next length =>
      refine ⟨values, hshares, length, ?_⟩
      simp only [hshares, if_pos length, target]
      rfl
    · cases h
  · cases h

/-- The small rates of an open well that is under no surface rate. -/
theorem rate_small {role : Role} (flowing : w.stack.stopped = false)
    (hrole : w.role = .member role) (kind : w.activeKind? ≠ some .surfaceRate) :
    ∀ p < phases, (List.replicate phases (role.sign * settings.smallRate))[p]? =
      w.firstRate? settings p := by
  intro p hp
  rw [List.getElem?_replicate_of_lt hp, Well.firstRate?, if_neg (by simp [flowing]), hrole]
  split
  · next h => exact absurd h kind
  · rfl

theorem attempt_flowing_ambient {role : Role} {rates : List Float}
    (flow : w.stack.stopped = false) (hrole : w.role = .member role)
    (ambient : w.TakesAmbient) (length : rates.length = phases)
    (rate : ∀ p < phases, rates[p]? = w.firstRate? settings p) :
    Attempt settings phases pressure w ((w.ambientFault? pressure).map .well) (do
      let p ← (ambientPressure pressure w).mapError .well
      pure { bhp := factor settings role * p,
             thp := (lastTarget? .thp w.stack.controls).getD settings.unsetPressure, rates }) := by
  apply attempt_ambient
  intro p top
  refine ⟨?_, ?_, length, rate⟩
  · rw [Well.firstBhp?_of_flowing flow hrole ambient top]
  · rw [Well.firstThp?_of_flowing flow]
    rfl

/-- An open well under a surface rate takes its shares of the target as rates. -/
theorem rate_shared {c : Control} {x : Float} {values : List Float}
    (flow : w.stack.stopped = false) (hactive : w.stack.activeControl = .ok (some c))
    (hkind : c.kind = .member .surfaceRate) (target : c.target = .member x)
    (shares : c.shares = some (.member values)) (length : values.length = phases) :
    ∀ p < phases, (values.map (x * ·))[p]? = w.firstRate? settings p := by
  intro p hp
  have kind := Well.activeKind?_of_some hactive
  have number := Well.activeTarget?_of_some hactive
  rw [hkind] at kind
  rw [target] at number
  simp [Well.firstRate?, flow, kind, number, Well.activeShare?, Well.activeControl?_eq hactive,
    shares, length, hp]

/-- An open well is initialized by its active control, its role and its whole stack. -/
theorem attempt_flowing (numeric : w.stack.Numeric) (flow : w.stack.stopped = false) {role : Role}
    (hrole : w.role = .member role) :
    Attempt settings phases pressure w (w.fault? phases pressure)
      (flowing settings phases pressure w role) := by
  have thp : w.firstThp? settings =
      some ((lastTarget? .thp w.stack.controls).getD settings.unsetPressure) :=
    Well.firstThp?_of_flowing flow
  rw [Well.fault?, flowing]
  simp only [hrole, lastTargets_eq numeric]
  cases hactive : w.stack.activeControl with
  | error e => exact rfl
  | ok active =>
      cases active with
      | none =>
          have idle := Well.activeKind?_of_none hactive
          exact attempt_flowing_ambient flow hrole (by simp [Well.TakesAmbient, idle])
            List.length_replicate (rate_small flow hrole (by simp [idle]))
      | some c =>
          have hc := numeric c (ControlStack.mem_of_activeControl hactive)
          obtain ⟨x, target⟩ := hc.target
          have kind := Well.activeKind?_of_some hactive
          change Attempt settings phases pressure w (w.activeFault? phases pressure c) _
          rw [Well.activeFault?]
          cases hkind : c.kind with
          | member k =>
              rw [hkind] at kind
              cases k with
              | bhp =>
                  refine ⟨_, by simp only [bind, Except.bind, hkind]; rfl, ?_, thp.symm,
                    List.length_replicate, rate_small flow hrole (by simp [kind])⟩
                  simp only [Well.firstBhp?, flow, kind]
                  rfl
              | thp =>
                  refine ⟨_, by simp only [bind, Except.bind, hkind]; rfl, ?_, thp.symm,
                    List.length_replicate, rate_small flow hrole (by simp [kind])⟩
                  simp only [Well.firstBhp?, flow, kind]
                  rfl
              | reservoirRate =>
                  simp only [bind, Except.bind, hkind]
                  exact attempt_flowing_ambient flow hrole (by simp [Well.TakesAmbient, kind])
                    List.length_replicate (rate_small flow hrole (by simp [kind]))
              | surfaceRate =>
                  simp only [flow]
                  cases hshares : w.sharesFault? phases c with
                  | some e =>
                      simp only [bind, Except.bind, hkind, surfaceRates_of_fault hc hshares]
                      exact rfl
                  | none =>
                      obtain ⟨values, given, length, rates⟩ :=
                        surfaceRates_of_no_fault target hshares
                      simp only [bind, Except.bind, hkind, rates]
                      exact attempt_flowing_ambient flow hrole (by simp [Well.TakesAmbient, kind])
                        (by rw [List.length_map, length])
                        (rate_shared flow hactive hkind target given length)
          | other given =>
              rw [hkind] at kind
              cases given with
              | null =>
                  simp only [bind, Except.bind, hkind]
                  exact attempt_flowing_ambient flow hrole (by simp [Well.TakesAmbient, kind])
                    List.length_replicate (rate_small flow hrole (by simp [kind]))
              | _ =>
                  simp only [bind, Except.bind, hkind, flow]
                  exact rfl

/-- A well is refused with its first fault, and otherwise initialized as the table says. -/
theorem attempt_ofWell (settings : Settings) (phases : Nat) (pressure : List Float)
    (numeric : w.stack.Numeric) :
    Attempt settings phases pressure w (w.fault? phases pressure)
      (ofWell settings phases pressure w) := by
  rw [ofWell, Well.requireRole]
  cases hrole : w.role with
  | other given =>
      rw [Well.fault?, hrole]
      exact rfl
  | member role =>
      cases hstopped : w.stack.stopped with
      | true => exact attempt_stopped numeric hstopped hrole
      | false => exact attempt_flowing numeric hstopped hrole

theorem ofWell_of_fault {e : Fault} (numeric : w.stack.Numeric)
    (h : w.fault? phases pressure = some e) : ofWell settings phases pressure w = .error e := by
  have attempt := attempt_ofWell settings phases pressure numeric
  rw [h] at attempt
  exact attempt

theorem ofWell_of_no_fault (settings : Settings) (numeric : w.stack.Numeric)
    (h : w.fault? phases pressure = none) :
    ∃ s, ofWell settings phases pressure w = .ok s ∧ s.Describes settings phases pressure w := by
  have attempt := attempt_ofWell settings phases pressure numeric
  rw [h] at attempt
  exact attempt

end Seed

end Reservoir
