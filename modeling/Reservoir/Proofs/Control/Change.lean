import Reservoir.Control.Command
import Reservoir.Proofs.Traverse

/-!
# What a command makes of a control stack

`ControlStack.Change` has one case for each kind of accepted command, with what was accepted.
A command that is refused leaves the stack as it was.
-/

namespace Reservoir

/-- Commands that change nothing. -/
def ControlCommand.Asks : ControlCommand → Prop
  | .add .. | .addUnchecked .. | .activate _ | .setActive _ | .clear | .stop | .reopen => False
  | _ => True

namespace ControlStack

/-- What an accepted command makes of a stack. -/
inductive Change (s : ControlStack) : ControlCommand → ControlStack → Prop
  | add {kind : Choice ControlKind} {target distribution : Datum} {c : Control}
      (read : readControl s.phases kind target distribution = .ok c) :
      Change s (.add kind target distribution) (s.push c)
  | addUnchecked (kind : Choice ControlKind) (target distribution : Datum) :
      Change s (.addUnchecked kind target distribution)
        (s.pushInactive (.unchecked kind target distribution))
  | activate {i : Int} (nonneg : 0 ≤ i) (inside : i < s.controls.length) :
      Change s (.activate i) { s with active := i }
  | setActive (i : Int) : Change s (.setActive i) (s.setActive i)
  | clear : Change s .clear s.clear
  | stop : Change s .stop s.stop
  | reopen : Change s .reopen s.reopen
  | ask {command : ControlCommand} (asks : command.Asks) : Change s command s

/-- A question that is answered leaves the stack as it is. -/
theorem eq_of_ask {s t : ControlStack} {command : ControlCommand} {reply : ControlReply}
    (asks : command.Asks) (h : s.change command = .ok (t, reply)) : t = s := by
  cases command with
  | add | addUnchecked | activate | setActive | clear | stop | reopen => exact asks.elim
  | size | isStopped =>
      cases h
      rfl
  | kindAt | activeKind | activeIsPressure =>
      obtain ⟨_, _, h⟩ := bind_eq_ok_iff.mp h
      cases h
      rfl
  | targetAt | sharesAt | activeTarget | activeShares =>
      obtain ⟨_, _, h⟩ := bind_eq_ok_iff.mp h
      obtain ⟨_, _, h⟩ := bind_eq_ok_iff.mp h
      cases h
      rfl
  | activeControl =>
      obtain ⟨found, _, h⟩ := bind_eq_ok_iff.mp h
      cases found with
      | none =>
          cases h
          rfl
      | some c =>
          obtain ⟨_, _, h⟩ := bind_eq_ok_iff.mp h
          cases h
          rfl

theorem change_of_ok {s t : ControlStack} {command : ControlCommand} {reply : ControlReply}
    (h : s.change command = .ok (t, reply)) : s.Change command t := by
  by_cases asks : command.Asks
  · rw [eq_of_ask asks h]
    exact .ask asks
  · cases command with
    | add kind target distribution =>
        obtain ⟨⟨u, n⟩, added, h⟩ := bind_eq_ok_iff.mp h
        obtain ⟨c, read, added⟩ := bind_eq_ok_iff.mp added
        cases added
        cases h
        exact .add read
    | addUnchecked kind target distribution =>
        cases h
        exact .addUnchecked kind target distribution
    | activate i =>
        obtain ⟨u, activated, h⟩ := bind_eq_ok_iff.mp h
        cases h
        rw [activate] at activated
        split at activated
        · next inside =>
          cases activated
          exact .activate inside.1 inside.2
        · cases activated
    | setActive i =>
        cases h
        exact .setActive i
    | clear =>
        cases h
        exact .clear
    | stop =>
        cases h
        exact .stop
    | reopen =>
        cases h
        exact .reopen
    | _ => exact absurd trivial asks

end ControlStack

end Reservoir
