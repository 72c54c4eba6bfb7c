import Reservoir.Control.Stack

/-!
# Commands to a control stack

A `ControlCommand` is one call on a stack, either a change or a question. `ControlStack.run`
answers it; a command that fails leaves the stack as it was.
-/

namespace Reservoir

/-- One call on a control stack. -/
inductive ControlCommand where
  | add (kind : Choice ControlKind) (target distribution : Datum)
  | addUnchecked (kind : Choice ControlKind) (target distribution : Datum)
  | activate (index : Int)
  | setActive (index : Int)
  | clear
  | stop
  | reopen
  | size
  | isStopped
  | kindAt (index : Int)
  | targetAt (index : Int)
  | sharesAt (index : Int)
  | activeKind
  | activeTarget
  | activeShares
  | activeControl
  | activeIsPressure

/-- The answer to a call on a control stack. -/
inductive ControlReply where
  | done
  | position (n : Nat)
  | flag (b : Option Bool)
  | kind (k : Option (Choice ControlKind))
  | target (x : Float)
  | shares (s : Option (Block Float))
  | control (c : Option ControlView)

namespace ControlStack

/-- A change of the stack, or its refusal. -/
def change (s : ControlStack) : ControlCommand → Except Fault (ControlStack × ControlReply)
  | .add kind target distribution => do
    let (t, n) ← s.add kind target distribution
    pure (t, .position n)
  | .addUnchecked kind target distribution =>
    pure (s.pushInactive (.unchecked kind target distribution), .done)
  | .activate i => do
    let t ← s.activate i
    pure (t, .done)
  | .setActive i => pure (s.setActive i, .done)
  | .clear => pure (s.clear, .done)
  | .stop => pure (s.stop, .done)
  | .reopen => pure (s.reopen, .done)
  | .size => pure (s, .position s.controls.length)
  | .isStopped => pure (s, .flag (some s.stopped))
  | .kindAt i => do
    let c ← s.control i
    pure (s, .kind (some c.kind))
  | .targetAt i => do
    let c ← s.control i
    let x ← c.readTarget.mapError .input
    pure (s, .target x)
  | .sharesAt i => do
    let c ← s.control i
    let b ← c.readShares.mapError .input
    pure (s, .shares b)
  | .activeKind => do
    let k ← s.activeKind
    pure (s, .kind k)
  | .activeTarget => do
    let c ← s.requireActive
    let x ← c.readTarget.mapError .input
    pure (s, .target x)
  | .activeShares => do
    let c ← s.requireActive
    let b ← c.readShares.mapError .input
    pure (s, .shares b)
  | .activeControl => do
    match ← s.activeControl with
    | none => pure (s, .control none)
    | some c => do
      let v ← c.view.mapError .input
      pure (s, .control (some v))
  | .activeIsPressure => do
    let b ← s.activeIsPressure
    pure (s, .flag b)

/-- The stack after a command, and the answer. -/
def run (s : ControlStack) (c : ControlCommand) : ControlStack × Except Fault ControlReply :=
  match s.change c with
  | .ok (t, reply) => (t, .ok reply)
  | .error e => (s, .error e)

/-- The stack after a list of commands. -/
def runAll (s : ControlStack) (cs : List ControlCommand) : ControlStack :=
  cs.foldl (fun t c => (t.run c).1) s

@[simp] theorem runAll_nil (s : ControlStack) : s.runAll [] = s := rfl

@[simp] theorem runAll_cons (s : ControlStack) (c : ControlCommand) (cs : List ControlCommand) :
    s.runAll (c :: cs) = (s.run c).1.runAll cs := rfl

theorem runAll_append (s : ControlStack) (cs ds : List ControlCommand) :
    s.runAll (cs ++ ds) = (s.runAll cs).runAll ds := by
  simp [runAll]

end ControlStack

end Reservoir
