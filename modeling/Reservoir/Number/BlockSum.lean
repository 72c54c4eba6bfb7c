/-!
# Sums of doubles in blocks

Addition of doubles is not associative, so the order of a sum is part of its value. Short
lists are added from the left. Longer ones keep eight running sums over strides of eight,
which are joined pairwise, and lists of more than 128 entries are halved first. The `total` of
a list is added to zero, so that it is never the negative zero.
-/

namespace Reservoir.Number

/-- Addition from the left. The start is the negative zero, so that no entry is changed. -/
def leftSum (xs : List Float) : Float :=
  xs.foldl (· + ·) (-0.0)

/-- Entrywise addition of the next eight entries to the eight running sums, for as long as
eight entries are left; the rest is returned as it is. -/
def runningSums (sums : List Float) (xs : List Float) : List Float × List Float :=
  if _h : 8 ≤ xs.length then
    runningSums (List.zipWith (· + ·) sums (xs.take 8)) (xs.drop 8)
  else (sums, xs)
  termination_by xs.length
  decreasing_by simp only [List.length_drop]; omega

/-- Eight sums, joined pairwise. -/
def joinSums : List Float → Float
  | [a, b, c, d, e, f, g, h] => ((a + b) + (c + d)) + ((e + f) + (g + h))
  | xs => leftSum xs

/-- The sum of a list of at most 128 entries. -/
def stridedSum (xs : List Float) : Float :=
  if xs.length < 8 then leftSum xs
  else
    let (sums, rest) := runningSums (xs.take 8) (xs.drop 8)
    rest.foldl (· + ·) (joinSums sums)

/-- The length of the left half: half of `n`, rounded down to a multiple of eight. -/
def leftHalf (n : Nat) : Nat :=
  n / 2 - n / 2 % 8

/-- The sum of a list of doubles of any length. -/
def blockSum (xs : List Float) : Float :=
  if _h : xs.length ≤ 128 then stridedSum xs
  else blockSum (xs.take (leftHalf xs.length)) + blockSum (xs.drop (leftHalf xs.length))
  termination_by xs.length
  decreasing_by
    · simp only [List.length_take, leftHalf]; omega
    · simp only [List.length_drop, leftHalf]; omega

/-- The sum of a list of doubles, added to zero. -/
def total (xs : List Float) : Float :=
  0.0 + blockSum xs

end Reservoir.Number
