/-!
# Doubles from powers of ten

`ofScientific m e` is the double nearest to `m * 10 ^ e`. A power that is out of range for any
double is settled before it is computed.
-/

namespace Reservoir.Number

/-- The double nearest to `m * 10 ^ e`. -/
def ofScientific (m : Nat) (e : Int) : Float :=
  if m = 0 then 0.0
  else if 400 < e then 1.0 / 0.0
  else if e + m.log2 < -400 then 0.0
  else Float.ofScientific m (decide (e < 0)) e.natAbs

end Reservoir.Number
