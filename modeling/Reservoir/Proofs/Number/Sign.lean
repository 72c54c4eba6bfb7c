import Reservoir.Proofs.Number.RoundTrip

/-!
# Products with one and minus one

A double times one, or minus one, keeps all of its parts but the sign: neither a short
significand nor a full one is rounded. So such a product of a positive double has the sign of the
other factor, however small the double is.
-/

namespace Reservoir.Number

section Parts

open Float.Model Float.Model.UnpackedFloat

variable {u : UnpackedFloat} {m : Nat} {s : Sign}

/-- One, with a sign. -/
def unit (s : Sign) : UnpackedFloat := .finite s (2 ^ 52) (-52) (Nat.two_pow_pos 52)

/-- The same parts under a further sign. -/
def signed (s : Sign) : UnpackedFloat → UnpackedFloat
  | .zero t => .zero (s * t)
  | .infinity t => .infinity (s * t)
  | .notANumber => .notANumber
  | .finite t m e pos => .finite (s * t) m e pos

theorem Canonical.signed (h : Canonical u) (s : Sign) : Canonical (signed s u) := by
  cases u with
  | zero | infinity | notANumber => exact trivial
  | finite => exact h

theorem isNaN_signed (s : Sign) (u : UnpackedFloat) : (signed s u).isNaN = u.isNaN := by
  cases u <;> rfl

/-- A short significand with zeros behind it is shifted to the least exponent. -/
theorem shiftToTargetExponent_short (pos : 0 < m) (short : m < 2 ^ 52) (d : Nat) :
    shiftToTargetExponent Format.binary64 (m * 2 ^ d) (-1074 - d) .exact =
      (ExtendedMantissa.ofMantissaAndAccuracy m .exact, -1074) := by
  have bits := (Nat.log2_lt (Nat.ne_of_gt pos)).mpr short
  have target : Format.binary64.targetExponent (totalExponent (m * 2 ^ d) (-1074 - d)) =
      -1074 := by
    simp only [Format.targetExponent, totalExponent, log2_mul_two_pow pos, Format.mantissaBits,
      Format.minExponent]
    omega
  have amount : (-1074 - (-1074 - d : Int)).toNat = d := by omega
  rw [shiftToTargetExponent, target, shiftToExponent, amount, shiftRight_mul_two_pow]
  congr 1
  omega

/-- A short significand with zeros behind it is not rounded. -/
theorem roundWithAccuracy_short (pos : 0 < m) (short : m < 2 ^ 52) (d : Nat) :
    roundWithAccuracy Format.binary64 s (m * 2 ^ d) (-1074 - d) .exact =
      .finite s m (-1074) pos := by
  have again := shiftToTargetExponent_short pos short 0
  rw [Nat.pow_zero, Nat.mul_one, Nat.cast_zero, sub_zero] at again
  exact roundWithAccuracy_of_shifts pos (shiftToTargetExponent_short pos short d) again

theorem mul_unit (h : Canonical u) (s : Sign) :
    UnpackedFloat.mul Format.binary64 (unit s) u = signed s u := by
  cases u with
  | zero | infinity | notANumber => rfl
  | finite t m e pos =>
      rw [unit, UnpackedFloat.mul, signed, Nat.mul_comm]
      rcases h with ⟨full, low, _⟩ | ⟨short, rfl⟩
      · rw [roundWithAccuracy_full full 52 (by omega)]
        congr 1
        omega
      · exact roundWithAccuracy_short pos short 52

/-- Parts of a double above zero. -/
def Positive : UnpackedFloat → Prop
  | .infinity .positive => True
  | .finite .positive _ _ _ => True
  | _ => False

/-- Parts of a double below zero. -/
def Negative : UnpackedFloat → Prop
  | .infinity .negative => True
  | .finite .negative _ _ _ => True
  | _ => False

theorem Positive.signed_positive (h : Positive u) : Positive (signed .positive u) := by
  cases u with
  | zero | notANumber => exact h
  | infinity t | finite t => cases t <;> exact h

theorem Positive.signed_negative (h : Positive u) : Negative (signed .negative u) := by
  cases u with
  | zero | notANumber => exact h
  | infinity t | finite t => cases t <;> exact h

end Parts

section Doubles

variable {x y : Float}

open Float.Model Float.Model.UnpackedFloat

theorem unpack_mul_of_unit {s : Sign} (h : x.toModel.unpack = unit s) (y : Float) :
    (x * y).toModel.unpack = signed s y.toModel.unpack := by
  have canonical := canonical_unpack y.toModel
  change (pack (UnpackedFloat.mul Format.binary64 x.toModel.unpack y.toModel.unpack)).unpack = _
  rw [h, mul_unit canonical, unpack_pack_of_canonical (canonical.signed s)]

theorem isNaN_mul_of_unit {s : Sign} (h : x.toModel.unpack = unit s) (y : Float) :
    (x * y).isNaN = y.isNaN := by
  change (x * y).toModel.unpack.isNaN = y.toModel.unpack.isNaN
  rw [unpack_mul_of_unit h, isNaN_signed]

theorem zero_lt_iff : 0.0 < x ↔ Positive x.toModel.unpack := by
  rw [lt_iff]
  change UnpackedFloat.lt (.zero .positive) x.toModel.unpack = true ↔ _
  cases x.toModel.unpack with
  | notANumber | zero => exact iff_of_false nofun id
  | infinity s | finite s =>
      cases s
      · exact iff_of_false nofun id
      · exact iff_of_true rfl trivial

theorem lt_zero_iff : x < 0.0 ↔ Negative x.toModel.unpack := by
  rw [lt_iff]
  change UnpackedFloat.lt x.toModel.unpack (.zero .positive) = true ↔ _
  cases x.toModel.unpack with
  | notANumber | zero => exact iff_of_false nofun id
  | infinity s | finite s =>
      cases s
      · exact iff_of_true rfl trivial
      · exact iff_of_false nofun id

theorem zero_lt_one_mul (h : 0.0 < x) : 0.0 < 1.0 * x := by
  rw [zero_lt_iff, unpack_mul_of_unit (s := .positive) rfl]
  exact (zero_lt_iff.mp h).signed_positive

theorem neg_one_mul_lt_zero (h : 0.0 < x) : -1.0 * x < 0.0 := by
  rw [lt_zero_iff, unpack_mul_of_unit (s := .negative) rfl]
  exact (zero_lt_iff.mp h).signed_negative

/-- What is at most something is no NaN, and neither is that. -/
theorem isNaN_of_le (h : x ≤ y) : x.isNaN = false ∧ y.isNaN = false := by
  rw [le_iff, UnpackedFloat.le] at h
  change x.toModel.unpack.isNaN = false ∧ y.toModel.unpack.isNaN = false
  cases left : x.toModel.unpack with
  | notANumber =>
      rw [left] at h
      cases h
  | zero | infinity | finite =>
      cases right : y.toModel.unpack with
      | notANumber =>
          rw [left, right] at h
          cases h
      | zero | infinity | finite => exact ⟨rfl, rfl⟩

/-- What is not at most something is above it, or one of the two is a NaN. -/
theorem not_le_iff : ¬x ≤ y ↔ y < x ∨ x.isNaN = true ∨ y.isNaN = true := by
  by_cases nan : x.isNaN = true ∨ y.isNaN = true
  · refine iff_of_true (fun le => ?_) (.inr nan)
    obtain ⟨hx, hy⟩ := isNaN_of_le le
    rw [hx, hy] at nan
    exact nan.elim nofun nofun
  · rw [or_iff_left nan]
    rw [not_or, Bool.not_eq_true, Bool.not_eq_true] at nan
    rw [← not_lt_iff_le nan.1 nan.2, not_not]

end Doubles

end Reservoir.Number
