/-!
# Tallies

A tally lists the distinct members of a list in ascending order, each with the number of its
occurrences.
-/

namespace Reservoir

variable {α : Type} [DecidableEq α]

/-- One more occurrence of `a`, in a tally that ascends by `before`. -/
def countOne (before : α → α → Bool) (a : α) : List (α × Nat) → List (α × Nat)
  | [] => [(a, 1)]
  | (b, n) :: rest =>
    if a = b then (b, n + 1) :: rest
    else if before a b then (a, 1) :: (b, n) :: rest
    else (b, n) :: countOne before a rest

/-- The tally of a list. -/
def tally (before : α → α → Bool) (xs : List α) : List (α × Nat) :=
  xs.foldr (countOne before) []

@[simp] theorem tally_nil (before : α → α → Bool) : tally before ([] : List α) = [] := rfl

@[simp] theorem tally_cons (before : α → α → Bool) (a : α) (xs : List α) :
    tally before (a :: xs) = countOne before a (tally before xs) := rfl

end Reservoir
