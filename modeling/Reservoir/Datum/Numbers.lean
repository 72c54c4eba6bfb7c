import Reservoir.Block
import Reservoir.Number.Whole
import Reservoir.Text.Numeral

/-!
# Numbers read from given values

A nested list of numbers is read as a rectangular block: `Datum.shape` measures it and
refuses ragged or very deep nesting, `Datum.leaves` lists its entries in row-major order,
and the readers `block`, `integers` and `flags` turn every entry into a double, an integer
or a truth value. A text is a number where it is the numeral of one.
-/

namespace Reservoir.Datum

mutual

/-- The lengths of a nested list, outermost first. All items of a list must agree. -/
def shape : Datum → Except InputFault (List Nat)
  | .list items => do
    match ← shapes items with
    | [] => pure [0]
    | s :: rest => if rest.all (· == s) then pure (items.length :: s) else throw .irregular
  | _ => pure []

/-- The shapes of the items of a list. -/
def shapes : List Datum → Except InputFault (List (List Nat))
  | [] => pure []
  | d :: ds => do
    let s ← shape d
    let rest ← shapes ds
    pure (s :: rest)

end

mutual

/-- The entries of a nested list, in row-major order. -/
def leaves : Datum → List Datum
  | .list items => leavesAll items
  | d => [d]

/-- The entries of each item of a list, one after the other. -/
def leavesAll : List Datum → List Datum
  | [] => []
  | d :: ds => d.leaves ++ leavesAll ds

end

/-- The most levels a nested list may have. -/
def depthLimit : Nat := 64

/-- The shape of a block that is not too deep. -/
def blockShape (d : Datum) : Except InputFault (List Nat) := do
  let s ← d.shape
  if s.length ≤ depthLimit then pure s else throw .irregular

/-- Not a number. -/
def nan : Float := 0.0 / 0.0

/-- An integer as a double, unless it is beyond the finite ones. -/
def floatOfInt (n : Int) : Except InputFault Float :=
  match Number.ofInt? n with
  | some x => pure x
  | none => throw .tooLarge

/-- The double that a text stands for. -/
def floatOfText (s : String) : Except InputFault Float :=
  match Text.float? s with
  | some x => pure x
  | none => throw .unreadable

/-- The integer that a text stands for. -/
def intOfText (s : String) : Except InputFault Int :=
  match Text.int? s with
  | some n => pure n
  | none => throw .unreadable

/-- One number, given alone. -/
def scalar : Datum → Except InputFault Float
  | .bool true => pure 1.0
  | .bool false => pure 0.0
  | .int n => floatOfInt n
  | .float x => pure x
  | .text s => floatOfText s
  | .null => throw .notNumber
  | .list _ => throw .notNumber
  | .record _ _ => throw .notNumber

/-- One entry of a list of doubles: a missing value is a NaN there. -/
def entry : Datum → Except InputFault Float
  | .null => pure nan
  | .list _ => throw .irregular
  | d => d.scalar

/-- The least and the greatest 64-bit integer, `-2 ^ 63` and `2 ^ 63 - 1`. -/
def integerRange : Int × Int := (-9223372036854775808, 9223372036854775807)

/-- The number of 64-bit integers, `2 ^ 64`. -/
def wordCount : Nat := 18446744073709551616

/-- An integer of 64 bits. -/
def bounded (n : Int) : Except InputFault Int :=
  if integerRange.1 ≤ n ∧ n ≤ integerRange.2 then pure n else throw .tooLarge

/-- A double cut to an integer. -/
def truncated (x : Float) : Except InputFault Int :=
  match Number.integerPart? x with
  | some n => pure n
  | none => if x.isNaN then throw .notInteger else throw .tooLarge

/-- One entry of a list of integers; a double is cut toward zero. -/
def integer : Datum → Except InputFault Int
  | .bool true => pure 1
  | .bool false => pure 0
  | .int n => bounded n
  | .float x => do bounded (← truncated x)
  | .text s => do bounded (← intOfText s)
  | .null => throw .notNumber
  | .list _ => throw .notNumber
  | .record _ _ => throw .notNumber

/-- The truth value of a value: zero and nothing are false, a NaN is true. -/
def isTrue : Datum → Bool
  | .null => false
  | .bool b => b
  | .int n => n != 0
  | .float x => x != 0.0
  | .text s => !s.isEmpty
  | .list items => !items.isEmpty
  | .record keys _ => !keys.isEmpty

/-- Whether a number is below one. A NaN is not. -/
def belowOne : Datum → Except InputFault Bool
  | .bool b => pure (!b)
  | .int n => pure (decide (n < 1))
  | .float x => pure (decide (x < 1.0))
  | _ => throw .notNumber

/-- Whether a number is below zero. A NaN is not. -/
def isNegative : Datum → Except InputFault Bool
  | .bool _ => pure false
  | .int n => pure (decide (n < 0))
  | .float x => pure (decide (x < 0.0))
  | _ => throw .notNumber

/-- A block of doubles. -/
def block (d : Datum) : Except InputFault (Block Float) := do
  let s ← d.blockShape
  let xs ← d.leaves.mapM entry
  pure (.ofShape s xs)

/-- The doubles of a block, in row-major order. -/
def floats (d : Datum) : Except InputFault (List Float) := do
  let b ← d.block
  pure b.entries

/-- A block with one of its rows set to a given value. The position is looked up before the
value is read. -/
def writeRow (value : Datum) (b : Block Float) (index : Int) :
    Except InputFault (Block Float) := do
  match b.shape with
  | [] => throw .noPosition
  | n :: inner =>
    match place? n index with
    | none => throw .noPosition
    | some _ => do
      let s ← value.blockShape
      if inner.length < s.length then throw .irregular
      else
        let row ← value.block
        b.setRow index row

/-- A block of integers. -/
def integerBlock (d : Datum) : Except InputFault (Block Int) := do
  let s ← d.blockShape
  let ns ← d.leaves.mapM integer
  pure (.ofShape s ns)

/-- The integers of a block, in row-major order. -/
def integers (d : Datum) : Except InputFault (List Int) := do
  let b ← d.integerBlock
  pure b.entries

/-- The truth values of a block, in row-major order. -/
def flags (d : Datum) : Except InputFault (List Bool) := do
  let _ ← d.blockShape
  pure (d.leaves.map isTrue)

/-- A flat list of doubles. -/
def ofFloats (xs : List Float) : Datum :=
  .list (xs.map .float)

/-- A double that is given as one. -/
def float? : Datum → Option Float
  | .float x => some x
  | _ => none

/-- A flat list of values that are given as doubles. -/
def flatFloats? : Datum → Option (List Float)
  | .list items => items.mapM float?
  | _ => none

/-- The number of items of a list, of characters of a text or of keys of a record. -/
def length? : Datum → Except InputFault Nat
  | .list items => pure items.length
  | .text s => pure s.length
  | .record keys _ => pure keys.length
  | _ => throw .notList

/-- Consecutive entries as pairs; an entry left over at the end is a fault. -/
def paired : List Int → Except InputFault (List (Int × Int))
  | [] => pure []
  | [_] => throw .oddPairs
  | a :: b :: rest => do
    let ps ← paired rest
    pure ((a, b) :: ps)

/-- Pairs of integers, whatever the nesting they are given in. -/
def pairs (d : Datum) : Except InputFault (List (Int × Int)) := do
  paired (← d.integers)

end Reservoir.Datum
