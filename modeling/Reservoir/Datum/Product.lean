import Reservoir.Datum.Sort

/-!
# Products of given values

A number, or a block of numbers, times a block of numbers. Both are brought to a common sort
first, and the product is one of that sort: integers of 64 bits wrap around, doubles are
rounded, and entries of mixed sorts are multiplied one by one as they were given. A single
integer takes the sort of the block, which has to hold it.
-/

namespace Reservoir

namespace NumberSort

/-- The sort of the product of a value and entries of a sort. -/
def timesValue (s : NumberSort) : Datum → Except InputFault NumberSort
  | .int n =>
    match s with
    | .flag => do
      let _ ← Datum.bounded n
      pure .signed
    | .signed => do
      let _ ← Datum.bounded n
      pure .signed
    | .unsigned => if 0 ≤ n ∧ n < Datum.wordCount then pure .unsigned else throw .tooLarge
    | .double => pure .double
    | .mixed => pure .mixed
    | .text => throw .notNumber
  | .text _ => throw .notNumber
  | d =>
    match d.sort.join s with
    | .text => throw .notNumber
    | t => pure t

/-- A factor that is an integer or a truth value. -/
def whole? : Datum → Option Int
  | .int n => some n
  | .bool b => some b.toNat
  | _ => none

/-- A factor brought to a sort. -/
def convert (s : NumberSort) (d : Datum) : Except InputFault Datum :=
  match s with
  | .double => do
    let x ← d.scalar
    pure (.float x)
  | _ => pure d

/-- A factor that was given as a number. -/
def quantity : Datum → Except InputFault Float
  | .text _ => throw .notNumber
  | d => d.scalar

/-- The product of two factors of a sort. -/
def times (s : NumberSort) (a b : Datum) : Except InputFault Datum :=
  match whole? a, whole? b with
  | some m, some n =>
    match s with
    | .signed => pure (.int ((m * n).bmod Datum.wordCount))
    | .unsigned => pure (.int ((m * n) % Datum.wordCount))
    | _ => pure (.int (m * n))
  | _, _ => do
    let x ← quantity a
    let y ← quantity b
    pure (.float (x * y))

end NumberSort

namespace Block

/-- The lengths of two aligned axes, of which one may be repeated. -/
def commonLength? (m n : Nat) : Option Nat :=
  if m = n ∨ n = 1 then some m
  else if m = 1 then some n
  else none

/-- The shape that two shapes fill together, aligned at the innermost axis. -/
def commonShape? (a b : List Nat) : Option (List Nat) :=
  let pad := fun (s : List Nat) => List.replicate (max a.length b.length - s.length) 1 ++ s
  ((pad a).zip (pad b)).mapM fun (m, n) => commonLength? m n

end Block

namespace Datum

/-- The product of a value and a block, entry by entry. -/
def product (value given : Datum) : Except InputFault (Block Datum) := do
  let inner ← given.blockShape
  let outer ← value.blockShape
  let sort ← given.sort.timesValue value
  let xs ← value.leaves.mapM sort.convert
  let ys ← given.leaves.mapM sort.convert
  match Block.commonShape? outer inner with
  | none => throw .unequalLengths
  | some shape =>
    match Block.fill? shape (.ofShape outer xs), Block.fill? shape (.ofShape inner ys) with
    | some xs, some ys => do
      let zs ← (xs.zip ys).mapM fun (x, y) => sort.times x y
      pure (.ofShape shape zs)
    | _, _ => throw .unequalLengths

end Datum

/-- The doubles that a block of values puts into a list of `n` entries. -/
def Block.spreadOver (n : Nat) (b : Block Datum) : Except InputFault (List Float) := do
  let list ← (Block.flat (List.replicate n Datum.null)).assign b
  list.entries.mapM Datum.entry

end Reservoir
