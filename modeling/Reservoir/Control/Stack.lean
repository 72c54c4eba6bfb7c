import Reservoir.Control.Basic
import Reservoir.Control.Distribution

/-!
# Control stacks

The controls of one well stand in the order in which they were added. At most one of them is
active; the first one added becomes active by itself. A stopped stack keeps its controls and
its active one.

The position of the active control is negative when none is. Operations that check their
arguments keep it negative or inside the stack; `setActive` does not check.
-/

namespace Reservoir

/-- The ordered controls of a well. -/
structure ControlStack where
  /-- The number of shares a distribution must have, when it is known. -/
  phases : Option (Choice Int) := none
  controls : List Control := []
  /-- The position of the active control, negative when none is active. -/
  active : Int := -1
  stopped : Bool := false

namespace ControlStack

/-- A stack without controls. -/
def empty (phases : Option (Choice Int)) : ControlStack := { phases }

/-- A control with checked kind, distribution and target, in this order. -/
def readControl (phases : Option (Choice Int)) (kind : Choice ControlKind)
    (target distribution : Datum) : Except Fault Control := do
  match kind with
  | .other given => throw (.control (.unknownKind given))
  | .member k =>
    let shares ← match distribution with
      | .null => if k = .surfaceRate then throw (.control .missingDistribution) else pure none
      | given => do
        let values ← readDistribution phases given
        pure (some (.member values))
    let t ← target.scalar.mapError .input
    pure { kind, target := .member t, shares }

/-- A control at the end of the stack. It becomes active if none was. -/
def push (s : ControlStack) (c : Control) : ControlStack :=
  { s with controls := s.controls ++ [c], active := if s.active < 0 then 0 else s.active }

/-- A control at the end of the stack, which stays inactive. -/
def pushInactive (s : ControlStack) (c : Control) : ControlStack :=
  { s with controls := s.controls ++ [c] }

/-- A checked control at the end of the stack, with its position. -/
def add (s : ControlStack) (kind : Choice ControlKind) (target distribution : Datum) :
    Except Fault (ControlStack × Nat) := do
  let c ← readControl s.phases kind target distribution
  pure (s.push c, s.controls.length)

/-- A stack without controls that is stopped if it was before. -/
def clear (s : ControlStack) : ControlStack :=
  { s with controls := [], active := -1 }

/-- The control at a position of the stack. -/
def control (s : ControlStack) (i : Int) : Except Fault Control :=
  if i < 0 then .error (.control (.noSuchControl i s.controls.length))
  else match s.controls[i.toNat]? with
    | some c => .ok c
    | none => .error (.control (.noSuchControl i s.controls.length))

/-- The control at a checked position becomes active. -/
def activate (s : ControlStack) (i : Int) : Except Fault ControlStack :=
  if 0 ≤ i ∧ i < s.controls.length then .ok { s with active := i }
  else .error (.control (.noSuchControl i s.controls.length))

/-- The position of the active control, not checked. -/
def setActive (s : ControlStack) (i : Int) : ControlStack := { s with active := i }

def stop (s : ControlStack) : ControlStack := { s with stopped := true }

def reopen (s : ControlStack) : ControlStack := { s with stopped := false }

/-- The active control, if any is active. -/
def activeControl (s : ControlStack) : Except Fault (Option Control) :=
  if s.active < 0 then .ok none
  else match s.controls[s.active.toNat]? with
    | some c => .ok (some c)
    | none => .error (.input .noPosition)

/-- All controls with their numbers read, in order. -/
def views (s : ControlStack) : Except InputFault (List ControlView) :=
  s.controls.mapM Control.view

/-- The kind of the active control. A control whose kind is the null value has none. -/
def activeKind (s : ControlStack) : Except Fault (Option (Choice ControlKind)) := do
  match ← s.activeControl with
  | none => pure none
  | some { kind := .other .null, .. } => pure none
  | some c => pure (some c.kind)

/-- The active control, which must be there. -/
def requireActive (s : ControlStack) : Except Fault Control := do
  match ← s.activeControl with
  | some c => pure c
  | none => throw (.control .noCurrent)

/-- Whether the active control is a pressure. The question is open when none is active, and
cannot be asked of a kind that is no kind. -/
def activeIsPressure (s : ControlStack) : Except Fault (Option Bool) := do
  match ← s.activeKind with
  | none => pure none
  | some (.member k) => pure (some k.isPressure)
  | some (.other _) => throw (.input .noPressureTest)

end ControlStack

end Reservoir
