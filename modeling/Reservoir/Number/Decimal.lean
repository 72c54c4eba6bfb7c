/-!
# The shortest decimal of a double

The reals that round to a double form an interval around it. Among the decimals in that
interval, `shortest` takes one with the fewest digits, and of these the nearest to the
double; an exact tie goes to the even last digit. All of it is arithmetic on natural numbers.

How the digits are laid out is a separate decision: `Layout` says which of them are written
without a power of ten.
-/

namespace Reservoir.Decimal

/-- The reals that round to a double, as numerators over the common denominator `unit`. The
ends belong to the interval when `closed` holds. -/
structure Span where
  low : Nat
  value : Nat
  high : Nat
  unit : Nat
  closed : Bool

/-- The interval of `m * 2 ^ e`, counted in quarters of the last binary place. Just above a
power of two the doubles below are twice as dense. -/
def Span.ofParts (m : Nat) (e : Int) : Span :=
  let scale := if 2 ≤ e then Nat.pow 2 (e - 2).toNat else 1
  let below := if m = Nat.pow 2 52 ∧ e ≠ -1074 then 1 else 2
  { low := (4 * m - below) * scale
    value := 4 * m * scale
    high := (4 * m + 2) * scale
    unit := if 2 ≤ e then 1 else Nat.pow 2 (2 - e).toNat
    closed := m % 2 == 0 }

/-- The same interval in units of `10 ^ k`. -/
def Span.inPowers (s : Span) (k : Int) : Span :=
  if 0 ≤ k then { s with unit := s.unit * Nat.pow 10 k.toNat }
  else
    let p := Nat.pow 10 (-k).toNat
    { s with low := s.low * p, value := s.value * p, high := s.high * p }

/-- Whether the interval holds the integer `c`. -/
def Span.holds (s : Span) (c : Nat) : Bool :=
  if s.closed then decide (s.low ≤ c * s.unit) && decide (c * s.unit ≤ s.high)
  else decide (s.low < c * s.unit) && decide (c * s.unit < s.high)

/-- The integer of the interval nearest to its value: only the two neighbours of the value
have to be tried. -/
def Span.nearest? (s : Span) : Option Nat :=
  let d := s.value / s.unit
  match s.holds d, s.holds (d + 1) with
  | false, false => none
  | true, false => some d
  | false, true => some (d + 1)
  | true, true =>
    match compare (2 * (s.value - d * s.unit)) s.unit with
    | .lt => some d
    | .gt => some (d + 1)
    | .eq => some (d + d % 2)

/-- Digits after the point of `0.d₁d₂d₃…`, with the power of ten that scales it. -/
structure Digits where
  digits : List Char
  point : Int
deriving DecidableEq, Repr

/-- The position of the point: `value / unit` lies between `10 ^ (point - 1)` and `10 ^ point`.
The value is scaled first, by more than any double needs. -/
def Span.point (s : Span) : Int :=
  (Nat.toDigits 10 (s.value * Nat.pow 10 400 / s.unit)).length - 400

/-- Digits without the zeros at their end. -/
def trimZeros (ds : List Char) : List Char :=
  (ds.reverse.dropWhile (· == '0')).reverse

/-- The grids of one, two, … seventeen digits are searched in turn. -/
def Span.shortest (s : Span) : Digits :=
  let hit := (List.range 17).findSome? fun (n : Nat) =>
    let k := s.point - (n + 1)
    (s.inPowers k).nearest?.map fun c => (Nat.toDigits 10 c, k)
  match hit with
  | some (ds, k) => ⟨trimZeros ds, k + ds.length⟩
  | none => ⟨[], 0⟩

/-- Which numbers are written without a power of ten: those whose first digit stands at a
place from `least` up to, and not including, `limit`. A power of ten has a sign and at least
`exponentDigits` digits. -/
structure Layout where
  least : Int := -4
  limit : Int := 16
  exponentDigits : Nat := 2

/-- A natural number in decimal, filled with zeros to a least width. -/
def padded (width n : Nat) : List Char :=
  let ds := Nat.toDigits 10 n
  List.replicate (width - ds.length) '0' ++ ds

/-- Digits laid out around the point, with a digit on either side of it. -/
def positional (d : Digits) : List Char :=
  if d.point ≤ 0 then
    '0' :: '.' :: (List.replicate (-d.point).toNat '0' ++ d.digits)
  else if d.digits.length ≤ d.point.toNat then
    d.digits ++ List.replicate (d.point.toNat - d.digits.length) '0' ++ ['.', '0']
  else d.digits.take d.point.toNat ++ '.' :: d.digits.drop d.point.toNat

/-- One digit before the point, the others after it, and the power of ten. -/
def scientific (l : Layout) (d : Digits) : List Char :=
  let e := d.point - 1
  let fraction := match d.digits.drop 1 with
    | [] => []
    | ds => '.' :: ds
  d.digits.take 1 ++ fraction ++ 'e' :: (if e < 0 then '-' else '+') ::
    padded l.exponentDigits e.natAbs

/-- The digits of a positive finite double. -/
def Layout.write (l : Layout) (d : Digits) : List Char :=
  let e := d.point - 1
  if l.least ≤ e ∧ e < l.limit then positional d else scientific l d

/-- The text of a double. -/
def Layout.render (l : Layout) (x : Float) : String :=
  match x.toModel.unpack with
  | .notANumber => "nan"
  | .infinity .positive => "inf"
  | .infinity .negative => "-inf"
  | .zero .positive => "0.0"
  | .zero .negative => "-0.0"
  | .finite .positive m e _ => String.ofList (l.write (Span.ofParts m e).shortest)
  | .finite .negative m e _ => String.ofList ('-' :: l.write (Span.ofParts m e).shortest)

/-- The text of a double in messages: no power of ten from `0.0001` up to `10 ^ 16`. -/
def text (x : Float) : String :=
  Layout.render {} x

end Reservoir.Decimal
