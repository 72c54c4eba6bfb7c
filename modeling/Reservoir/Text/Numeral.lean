import Reservoir.Number.Scientific
import Reservoir.Text.Visible

/-!
# Numerals in texts

A text stands for a number when it is a decimal numeral with blanks at most at its ends. The
digits may be those of any script, and single underscores may stand between digits. `float?`
also takes a point, a power of ten and the words for infinity and for no number; `int?` takes
digits and a sign only.
-/

namespace Reservoir.Text

/-- The zeros of all scripts with decimal digits. The other nine digits follow their zero. -/
def digitZeros : List Nat :=
  [0x30, 0x660, 0x6f0, 0x7c0, 0x966, 0x9e6, 0xa66, 0xae6, 0xb66, 0xbe6, 0xc66, 0xce6, 0xd66, 0xde6,
   0xe50, 0xed0, 0xf20, 0x1040, 0x1090, 0x17e0, 0x1810, 0x1946, 0x19d0, 0x1a80, 0x1a90, 0x1b50,
   0x1bb0, 0x1c40, 0x1c50, 0xa620, 0xa8d0, 0xa900, 0xa9d0, 0xa9f0, 0xaa50, 0xabf0, 0xff10, 0x104a0,
   0x10d30, 0x11066, 0x110f0, 0x11136, 0x111d0, 0x112f0, 0x11450, 0x114d0, 0x11650, 0x116c0,
   0x11730, 0x118e0, 0x11950, 0x11c50, 0x11d50, 0x11da0, 0x16a60, 0x16ac0, 0x16b50, 0x1d7ce,
   0x1d7d8, 0x1d7e2, 0x1d7ec, 0x1d7f6, 0x1e140, 0x1e2f0, 0x1e950, 0x1fbf0]

/-- Blanks, as closed ranges in ascending order. -/
def blankRanges : List (Nat × Nat) :=
  [(0x9, 0xd), (0x20, 0x20), (0x85, 0x85), (0xa0, 0xa0), (0x1680, 0x1680), (0x2000, 0x200a),
   (0x2028, 0x2029), (0x202f, 0x202f), (0x205f, 0x205f), (0x3000, 0x3000)]

def isBlank (c : Char) : Bool := inRanges c.toNat blankRanges

/-- A digit of any script as the plain digit of its value. -/
def plainDigit (c : Char) : Char :=
  match digitZeros.find? fun z => decide (z ≤ c.toNat) && decide (c.toNat < z + 10) with
  | some z => Nat.digitChar (c.toNat - z)
  | none => c

/-- The characters of a text between the blanks at its ends, with plain digits. -/
def core (s : String) : List Char :=
  ((s.toList.dropWhile isBlank).reverse.dropWhile isBlank).reverse.map plainDigit

/-- The characters without underscores, each of which has to stand between two digits. The
first argument is the character before. -/
def withoutUnderscores? (before : Char) : List Char → Option (List Char)
  | [] => if before = '_' then none else some []
  | c :: cs =>
    if c = '_' then if before.isDigit then withoutUnderscores? c cs else none
    else if before = '_' ∧ ¬c.isDigit then none
    else (withoutUnderscores? c cs).map (c :: ·)

/-- Whether a numeral has a minus sign, and what follows its sign. -/
def splitSign : List Char → Bool × List Char
  | '-' :: cs => (true, cs)
  | '+' :: cs => (false, cs)
  | cs => (false, cs)

/-- The value of a list of plain digits. -/
def digitsValue (ds : List Char) : Nat :=
  ds.foldl (fun n d => 10 * n + (d.toNat - '0'.toNat)) 0

/-- The value of one or more digits and nothing else. -/
def natural? (cs : List Char) : Option Nat :=
  if !cs.isEmpty && cs.all Char.isDigit then some (digitsValue cs) else none

/-- A power of ten at the end of a numeral; without one it is the zeroth. -/
def exponent? : List Char → Option Int
  | [] => some 0
  | c :: cs =>
    if c = 'e' ∨ c = 'E' then
      let (negative, ds) := splitSign cs
      (natural? ds).map fun n => if negative then -(n : Int) else n
    else none

/-- A decimal numeral without a sign: digits, a point among or around them, a power of ten. -/
def decimal? (cs : List Char) : Option Float :=
  let whole := cs.takeWhile Char.isDigit
  let (fraction, rest) := match cs.dropWhile Char.isDigit with
    | '.' :: r => (r.takeWhile Char.isDigit, r.dropWhile Char.isDigit)
    | r => ([], r)
  if whole.isEmpty && fraction.isEmpty then none
  else
    (exponent? rest).map fun e =>
      Number.ofScientific (digitsValue (whole ++ fraction)) (e - fraction.length)

/-- A number without a sign, as digits or as a word. -/
def magnitude? (cs : List Char) : Option Float :=
  let word := String.ofList (cs.map Char.toLower)
  if word = "inf" ∨ word = "infinity" then some (1.0 / 0.0)
  else if word = "nan" then some (0.0 / 0.0)
  else decimal? cs

/-- The double that a text stands for. -/
def float? (s : String) : Option Float := do
  let cs ← withoutUnderscores? '+' (core s)
  let (negative, cs) := splitSign cs
  let x ← magnitude? cs
  pure (if negative then -x else x)

/-- The integer that a text stands for. -/
def int? (s : String) : Option Int := do
  let cs ← withoutUnderscores? '+' (core s)
  let (negative, cs) := splitSign cs
  let n ← natural? cs
  pure (if negative then -(n : Int) else n)

end Reservoir.Text
