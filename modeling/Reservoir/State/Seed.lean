import Reservoir.Datum.Product
import Reservoir.Journal
import Reservoir.State.Basic
import Reservoir.Well.WellSet

/-!
# The first state of one well

A stopped well has no rates. Under a pressure control it takes the target as that pressure
and leaves the other at zero; otherwise it takes the ambient pressure of its top cell as the
bottom hole pressure, and the tubing head pressure does not apply.

An open well under a surface rate takes its share of the target as the rate of every phase,
and otherwise a small rate with the sign of its role. The targets of its pressure controls,
wherever they stand in the stack, become its pressures, the last of each kind counting. If
no pressure control is active, the bottom hole pressure is then set to a little above the
ambient pressure for an injector, and a little below it for a producer.
-/

namespace Reservoir

/-- The first pressures and rates of a well. -/
structure Seed where
  bhp : Float
  thp : Float
  rates : List Float

namespace Seed

/-- The ambient pressure at the top cell of a well. -/
def ambientPressure (pressure : List Float) (w : Well) : Except WellFault Float := do
  let cell ← w.firstCell
  match if cell < 0 then none else pressure[cell.toNat]? with
  | some p => pure p
  | none => throw (.noAmbientPressure w.name cell pressure.length)

/-- A stopped well. -/
def stopped (settings : Settings) (phases : Nat) (pressure : List Float) (w : Well) :
    Except Fault Seed := do
  let rates := List.replicate phases 0.0
  let ambient : Except Fault Seed := do
    let p ← (ambientPressure pressure w).mapError .well
    pure { bhp := p, thp := settings.unsetPressure, rates }
  match ← w.stack.activeControl with
  | none => ambient
  | some c =>
    match c.kind with
    | .member .bhp => do
      let p ← c.pressure.mapError .input
      pure { bhp := p, thp := 0.0, rates }
    | .member .thp => do
      let p ← c.pressure.mapError .input
      pure { bhp := 0.0, thp := p, rates }
    | .member .reservoirRate => ambient
    | .member .surfaceRate => ambient
    | .other .null => ambient
    | .other given => throw (.control (.unhandledKind w.name given))

/-- The product of a target and shares as they were given, over the phases. -/
def givenRates (phases : Nat) (target : Choice Float) (shares : Datum) :
    Except Fault (List Float) := do
  let b ← ((target.toDatum .float).product shares).mapError .input
  (b.spreadOver phases).mapError .input

/-- The rates of a surface rate control. Shares that were never checked count by their outer
length, and may still be no numbers. -/
def surfaceRates (phases : Nat) (w : Well) (c : Control) : Except Fault (List Float) := do
  match c.shares with
  | none => throw (.control (.unmatchedPhases w.name phases))
  | some (.member values) =>
    if values.length = phases then
      match c.target with
      | .member x => pure (values.map (x * ·))
      | .other _ => givenRates phases c.target (.ofFloats values)
    else throw (.control (.unmatchedPhases w.name phases))
  | some (.other given) =>
    let n ← given.length?.mapError .input
    if n = phases then givenRates phases c.target given
    else throw (.control (.unmatchedPhases w.name phases))

/-- The targets of the pressure controls of a stack, bottom hole and tubing head, the last of
each kind, or what stands for no target. -/
def lastTargets (unset : Float) (controls : List Control) :
    Except InputFault (Float × Float) :=
  controls.foldlM
    (fun targets c =>
      match c.kind with
      | .member .bhp => do
        let p ← c.pressure
        pure (p, targets.2)
      | .member .thp => do
        let p ← c.pressure
        pure (targets.1, p)
      | _ => pure targets)
    (unset, unset)

/-- What the bottom hole pressure of an open well is of the ambient pressure. -/
def factor (settings : Settings) : Role → Float
  | .injector => settings.injectorFactor
  | .producer => settings.producerFactor

/-- An open well. -/
def flowing (settings : Settings) (phases : Nat) (pressure : List Float) (w : Well)
    (role : Role) : Except Fault Seed := do
  let active ← w.stack.activeControl
  let small := List.replicate phases (role.sign * settings.smallRate)
  let rates ← match active with
    | some c =>
      match c.kind with
      | .member .surfaceRate => surfaceRates phases w c
      | _ => pure small
    | none => pure small
  let (bhp, thp) ← (lastTargets settings.unsetPressure w.stack.controls).mapError .input
  let ambient : Except Fault Seed := do
    let p ← (ambientPressure pressure w).mapError .well
    pure { bhp := factor settings role * p, thp, rates }
  match active with
  | none => ambient
  | some c =>
    match c.kind with
    | .member k => if k.isPressure then pure { bhp, thp, rates } else ambient
    | .other .null => ambient
    | .other _ => throw (.input .noPressureTest)

/-- The first state of a well, open or stopped. -/
def ofWell (settings : Settings) (phases : Nat) (pressure : List Float) (w : Well) :
    Except Fault Seed := do
  let role ← w.requireRole.mapError .well
  if w.stack.stopped then stopped settings phases pressure w
  else flowing settings phases pressure w role

/-- The pressure that a stopped well leaves at zero. -/
def zeroPressure? (w : Well) : Option String :=
  if w.stack.stopped then
    match w.stack.activeControl with
    | .ok (some c) =>
      match c.kind with
      | .member .bhp => some "thp"
      | .member .thp => some "bhp"
      | _ => none
    | _ => none
  else none

/-- The warning about a pressure left at zero. -/
def zeroWarning (w : Well) (pressure : String) : String :=
  "Stopped well " ++ Text.quoted w.name ++ ": " ++ pressure ++
    " left at 0 under a pressure control."

/-- What is reported of a well that has been initialized. -/
def report (settings : Settings) (w : Well) (s : Seed) : Journal where
  events := match w.role with
    | .member r =>
      [.wellInitialized w.name r.word (if w.stack.stopped then "stopped" else "open")
        s.bhp s.thp s.rates]
    | .other _ => []
  warnings :=
    if settings.warnOnZeroPressure then ((zeroPressure? w).map (zeroWarning w)).toList else []

end Seed

end Reservoir
