/-!
# Doubles and whole numbers

A finite double is a sign, a significand and a power of two, so its integer part and the
question whether it is whole are settled exactly, in integers. `integerPart?` cuts toward
zero, `whole?` answers only for a double that equals an integer.
-/

namespace Reservoir.Number

/-- The integer part of `m * 2 ^ e`. -/
def scaled (m : Nat) (e : Int) : Nat :=
  if 0 ≤ e then m * Nat.pow 2 e.toNat else m / Nat.pow 2 (-e).toNat

/-- The integer part of a double, toward zero. A double that is not finite has none. -/
def integerPart? (x : Float) : Option Int :=
  match x.toModel.unpack with
  | .finite .positive m e _ => some (scaled m e)
  | .finite .negative m e _ => some (-(scaled m e : Int))
  | .zero _ => some 0
  | .infinity _ => none
  | .notANumber => none

/-- Whether a double equals an integer. -/
def isWhole (x : Float) : Bool :=
  match x.toModel.unpack with
  | .finite _ m e _ => decide (0 ≤ e) || m % Nat.pow 2 (-e).toNat == 0
  | .zero _ => true
  | .infinity _ => false
  | .notANumber => false

/-- The integer a double equals. -/
def whole? (x : Float) : Option Int :=
  if isWhole x then integerPart? x else none

/-- The double nearest to an integer, ties to even, unless the integer is beyond all finite
doubles. -/
def ofInt? (n : Int) : Option Float :=
  let x := Float.ofInt n
  if x.isInf then none else some x

end Reservoir.Number
