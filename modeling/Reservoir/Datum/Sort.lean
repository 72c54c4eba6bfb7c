import Reservoir.Datum.Numbers

/-!
# Sorts of numbers

The entries of an array are brought to the least sort that they have in common. Integers that
need a sign and integers too large for one have only the doubles in common; an integer of more
than 64 bits, or a value that is no number, keeps all entries as they are.
-/

namespace Reservoir

/-- What the entries of an array are. -/
inductive NumberSort where
  /-- Truth values. -/
  | flag
  /-- Integers of 64 bits, one of them for the sign. -/
  | signed
  /-- Integers of 64 bits without a sign. -/
  | unsigned
  | double
  | text
  /-- Entries of several sorts, each as it was given. -/
  | mixed
deriving DecidableEq, Repr

namespace NumberSort

/-- The sort of a single entry. -/
def ofEntry : Datum → NumberSort
  | .bool _ => .flag
  | .int n =>
    if Datum.integerRange.1 ≤ n ∧ n ≤ Datum.integerRange.2 then .signed
    else if 0 ≤ n ∧ n < Datum.wordCount then .unsigned
    else .mixed
  | .float _ => .double
  | .text _ => .text
  | _ => .mixed

/-- The least sort that holds the entries of two sorts. -/
def join : NumberSort → NumberSort → NumberSort
  | .mixed, _ => .mixed
  | _, .mixed => .mixed
  | .text, _ => .text
  | _, .text => .text
  | .double, _ => .double
  | _, .double => .double
  | .flag, s => s
  | s, .flag => s
  | .signed, .signed => .signed
  | .unsigned, .unsigned => .unsigned
  | .signed, .unsigned => .double
  | .unsigned, .signed => .double

theorem join_self (s : NumberSort) : s.join s = s := by
  cases s <;> rfl

/-- The sort of a list of entries. No entries at all count as doubles. -/
def ofEntries : List Datum → NumberSort
  | [] => .double
  | d :: ds => ds.foldl (fun s e => s.join (ofEntry e)) (ofEntry d)

end NumberSort

/-- The sort of the entries of a nested list. -/
def Datum.sort (d : Datum) : NumberSort :=
  NumberSort.ofEntries d.leaves

end Reservoir
