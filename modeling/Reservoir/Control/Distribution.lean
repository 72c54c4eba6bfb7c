import Reservoir.Datum.Numbers
import Reservoir.Number.BlockSum

/-!
# Phase distributions

A distribution is accepted as a flat, non-empty list with one share for each phase, no share
below zero and a sum within a tolerance of one. The tests ask whether something is wrong in
this order, and the first answer is the one that is given. No comparison with a NaN holds.
-/

namespace Reservoir

/-- How far the sum of a distribution may be from one. -/
def sumTolerance : Float := 1e-10

/-- Whether a number of entries is another one than a number of phases, which may have been
given as a double or a truth value. The null value asks for no number, and nothing else equals
one. -/
def miscounted (entries : Nat) : Choice Int → Bool
  | .member p => decide ((entries : Int) ≠ p)
  | .other (.float x) => Float.ofNat entries != x
  | .other (.bool b) => decide (entries ≠ b.toNat)
  | .other .null => false
  | .other _ => true

/-- A flat distribution that passed the test of its shape, checked against the number of
phases, if there is one. -/
def checkShares (phases : Option (Choice Int)) (shares : List Float) :
    Except ControlFault (List Float) :=
  match phases.filter (miscounted shares.length) with
  | some p => .error (.phaseCount shares.length p)
  | none =>
    if shares.any (· < 0.0) then .error .negativeShare
    else if (Number.total shares - 1.0).abs > sumTolerance then
      .error (.sum (Number.total shares))
    else .ok shares

/-- The distribution that a value stands for. -/
def readDistribution (phases : Option (Choice Int)) (given : Datum) :
    Except Fault (List Float) := do
  match ← given.block.mapError .input with
  | .flat shares =>
    if shares.isEmpty then throw (.control (.notFlat given))
    else (checkShares phases shares).mapError .control
  | .shaped _ _ => throw (.control (.notFlat given))

end Reservoir
