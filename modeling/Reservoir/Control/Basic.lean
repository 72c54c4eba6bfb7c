import Reservoir.Datum.Numbers

/-!
# Controls

A control is an operating constraint: a kind, a target, and for surface rates the shares of
the phases in the target. A control that was never checked keeps what it was given: its kind,
target and shares may be any values, and whether they can be used is found out on use. A
`ControlView` is a control whose numbers have been read.
-/

namespace Reservoir

/-- What a control holds fixed. -/
inductive ControlKind where
  | bhp
  | thp
  | reservoirRate
  | surfaceRate
deriving DecidableEq, Repr

namespace ControlKind

/-- Bottom hole and tubing head pressure, as against rates. -/
def isPressure : ControlKind → Bool
  | .bhp => true
  | .thp => true
  | .reservoirRate => false
  | .surfaceRate => false

def name : ControlKind → String
  | .bhp => "BHP"
  | .thp => "THP"
  | .reservoirRate => "RESERVOIR_RATE"
  | .surfaceRate => "SURFACE_RATE"

def all : List ControlKind := [.bhp, .thp, .reservoirRate, .surfaceRate]

end ControlKind

/-- One operating constraint of a well. -/
structure Control where
  kind : Choice ControlKind
  target : Choice Float
  shares : Option (Choice (List Float)) := none

/-- A control as it is shown. -/
structure ControlView where
  kind : Choice ControlKind
  target : Float
  shares : Option (Block Float)

namespace Control

/-- A control that is not checked. Doubles and flat lists of doubles are recognized. -/
def unchecked (kind : Choice ControlKind) (target distribution : Datum) : Control where
  kind := kind
  target := match target.float? with
    | some x => .member x
    | none => .other target
  shares := match distribution with
    | .null => none
    | given => match given.flatFloats? with
      | some xs => some (.member xs)
      | none => some (.other given)

/-- The target as a number. -/
def readTarget (c : Control) : Except InputFault Float :=
  match c.target with
  | .member x => .ok x
  | .other given => given.scalar

/-- The target as the pressure of a well, where a missing number is a NaN. -/
def pressure (c : Control) : Except InputFault Float :=
  match c.target with
  | .member x => .ok x
  | .other given => given.entry

/-- The shares as a block of doubles. -/
def readShares (c : Control) : Except InputFault (Option (Block Float)) :=
  match c.shares with
  | none => .ok none
  | some (.member xs) => .ok (some (.flat xs))
  | some (.other given) => do
    let b ← given.block
    let _ ← b.length?
    pure (some b)

/-- The control with its numbers read, the target first. -/
def view (c : Control) : Except InputFault ControlView := do
  let target ← c.readTarget
  let shares ← c.readShares
  pure { kind := c.kind, target, shares }

end Control

end Reservoir
