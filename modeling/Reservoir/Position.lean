/-!
# Positions counted from either end

A negative position counts from the end of a list: -1 is its last entry.
-/

namespace Reservoir

/-- The place of a signed position in a list of length `n`. -/
def place? (n : Nat) (i : Int) : Option Nat :=
  if 0 ≤ i then if i < n then some i.toNat else none
  else if -i ≤ n then some (i + n).toNat
  else none

theorem place?_lt {n k : Nat} {i : Int} (h : place? n i = some k) : k < n := by
  unfold place? at h
  split at h
  · split at h
    · cases h; omega
    · simp at h
  · split at h
    · cases h; omega
    · simp at h

@[simp] theorem place?_ofNat {n k : Nat} (h : k < n) : place? n (k : Int) = some k := by
  simp [place?, h]

/-- The entry at a signed position. -/
def atPlace? {α : Type} (xs : List α) (i : Int) : Option α :=
  (place? xs.length i).bind (xs[·]?)

end Reservoir
