import Mathlib
import Reservoir.Number.Whole

/-!
# Integers as doubles, and doubles that are integers

An integer below `2 ^ 62` in magnitude is read as a double: the exponent of a double made from
it is far below that of an infinity. `ExponentLE` bounds the exponent of a finite double in
parts. Every step of the conversion keeps such a bound, because a shift to the exponent of the
format raises an exponent by no more than the significand has bits.

`value?` is the rational number that a finite double is, and `whole?` answers with an integer
exactly when that number is one.
-/

namespace Reservoir.Number

section Exponents

open Float.Model Float.Model.UnpackedFloat

/-- A finite double in parts, with an exponent of at most `top`. -/
def ExponentLE (top : Int) : UnpackedFloat → Prop
  | .zero _ => True
  | .finite _ _ e _ => e ≤ top
  | .infinity _ => False
  | .notANumber => False

theorem ExponentLE.mono {i j : Int} {u : UnpackedFloat} (h : ExponentLE i u) (le : i ≤ j) :
    ExponentLE j u := by
  cases u with
  | zero => exact trivial
  | infinity | notANumber => exact h.elim
  | finite => exact Int.le_trans h le

theorem mantissa_shiftRight_le (em : ExtendedMantissa) (n : Nat) :
    (em >>> n).mantissa ≤ em.mantissa := by
  change (n.repeat ExtendedMantissa.shiftRightOne em).mantissa ≤ em.mantissa
  induction n with
  | zero => exact Nat.le_refl _
  | succ n ih => exact Nat.le_trans (Nat.div_le_self _ 2) ih

theorem roundedMantissa_le (em : ExtendedMantissa) : em.roundedMantissa ≤ em.mantissa + 1 := by
  obtain ⟨m, round, sticky⟩ := em
  cases round <;> cases sticky <;>
    simp only [ExtendedMantissa.roundedMantissa, ExtendedMantissa.accuracy,
      Accuracy.roundToNearestEven] <;> omega

theorem log2_le_of_le_two_pow {m k : Nat} (h : m ≤ 2 ^ k) : m.log2 ≤ k := by
  by_cases zero : m = 0
  · simp [zero]
  · exact Nat.le_of_lt_succ
      ((Nat.log2_lt zero).mpr (Nat.lt_of_le_of_lt h (Nat.pow_lt_pow_succ (by decide))))

theorem snd_shiftToTargetExponent_le {m k : Nat} (e : Int) (h : m ≤ 2 ^ k) :
    (shiftToTargetExponent Format.binary64 m e .exact).2 ≤ max (e + k) (-1000) := by
  have log := log2_le_of_le_two_pow h
  simp only [shiftToTargetExponent, shiftToExponent, Format.targetExponent, totalExponent,
    Format.mantissaBits, Format.minExponent]
  omega

/-- Rounding raises the exponent by no more than the significand has bits, each time it shifts. -/
theorem exponentLE_roundWithAccuracy {m : Nat} (k : Nat) (s : Sign) (e : Int) (h : m < 2 ^ k) :
    ExponentLE (max (e + 2 * k) k) (roundWithAccuracy Format.binary64 s m e .exact) := by
  have first := snd_shiftToTargetExponent_le e (Nat.le_of_lt h)
  have shifted : (shiftToTargetExponent Format.binary64 m e .exact).1.mantissa ≤ m :=
    mantissa_shiftRight_le _ _
  simp only [roundWithAccuracy]
  generalize shiftToTargetExponent Format.binary64 m e .exact = once at first shifted ⊢
  have rounded := roundedMantissa_le once.1
  have second := snd_shiftToTargetExponent_le once.2 (show once.1.roundedMantissa ≤ 2 ^ k by omega)
  split
  · trivial
  · rw [ExponentLE]
    omega

/-- The exponent of a packed double is that of its exponent field, or the least one. -/
theorem exponentLE_unpack_packComponents {top : Int} (s : Sign) {field : BitVec 11}
    (m : BitVec 52) (inner : field.toNat < 2047) (lower : -1000 ≤ top)
    (upper : (field.toNat : Int) ≤ top + 1075) :
    ExponentLE top (UnpackedFloat.unpack Format.binary64
      (packComponents Format.binary64 s field m)) := by
  have finite : field ≠ -1#11 := by
    rintro rfl
    exact absurd inner (by decide)
  simp only [UnpackedFloat.unpack, unpackExponent_packComponents, unpackMantissa_packComponents,
    if_neg finite, Format.exponentBias]
  split
  · next zero =>
    subst zero
    split
    · trivial
    · rw [ExponentLE]
      simp only [BitVec.toNat_zero]
      omega
  · rw [ExponentLE]
    omega

theorem exponentLE_unpack_pack {top : Int} {u : UnpackedFloat} (h : ExponentLE top u)
    (lower : -1000 ≤ top) (upper : top ≤ 900) : ExponentLE top (pack u).unpack := by
  cases u with
  | zero s => cases s <;> exact trivial
  | infinity s => exact h.elim
  | notANumber => exact h.elim
  | finite s m e hm =>
      rw [ExponentLE] at h
      have small : ¬2 ^ Format.binary64.exponentBits ≤
          (e + Format.binary64.exponentBias +
            Format.binary64.mantissaBitsWithoutImplicit).toNat + 1 := by
        simp only [Format.exponentBias]
        omega
      simp only [Float.Model.unpack, Float.Model.pack, UnpackedFloat.pack, if_neg small]
      split
      · apply exponentLE_unpack_packComponents s _ _ lower
        · simp only [Format.exponentBias, BitVec.toNat_ofNat] at *
          omega
        · simp only [Format.exponentBias, BitVec.toNat_ofNat] at *
          omega
      · exact exponentLE_unpack_packComponents s _ (by decide) lower (by simp; omega)

theorem lt_of_unpack {x : Float.Model} {s : Sign} {m : Nat} {e : Int} {hm : 0 < m}
    (h : x.unpack = .finite s m e hm) : m < 2 ^ 53 := by
  simp only [Float.Model.unpack, UnpackedFloat.unpack] at h
  split at h
  · split at h <;> cases h
  · split at h
    · split at h
      · cases h
      · cases h
        omega
    · cases h
      omega

/-- The product of doubles with significands of 53 bits. -/
theorem exponentLE_mul {x y : Float.Model} {i j : Int} (hx : ExponentLE i x.unpack)
    (hy : ExponentLE j y.unpack) :
    ExponentLE (max (i + j + 212) 106) (mul Format.binary64 x.unpack y.unpack) := by
  cases left : x.unpack with
  | infinity | notANumber =>
      rw [left] at hx
      exact hx.elim
  | zero s =>
      cases right : y.unpack with
      | infinity | notANumber =>
          rw [right] at hy
          exact hy.elim
      | zero | finite => exact trivial
  | finite s m e hm =>
      cases right : y.unpack with
      | infinity | notANumber =>
          rw [right] at hy
          exact hy.elim
      | zero => exact trivial
      | finite t n f hn =>
          have bits : m * n < 2 ^ 106 := by
            calc
              m * n < 2 ^ 53 * 2 ^ 53 := Nat.mul_lt_mul'' (lt_of_unpack left) (lt_of_unpack right)
              _ = 2 ^ 106 := by decide
          have rounded := exponentLE_roundWithAccuracy 106 (s * t) (e + f) bits
          rw [left, ExponentLE] at hx
          rw [right, ExponentLE] at hy
          exact rounded.mono (by omega)

/-- An integer is normalized from the exponent zero. -/
theorem exponentLE_ofNat {n k : Nat} (h : n < 2 ^ k) (hk : k ≤ 64) :
    ExponentLE 300 (UnpackedFloat.ofNat Format.binary64 n) := by
  rw [UnpackedFloat.ofNat, UnpackedFloat.ofInt, UnpackedFloat.normalize]
  split
  · next negative => exact absurd (Int.compare_eq_lt.mp negative) (by omega)
  · trivial
  · rw [UnpackedFloat.round, decreaseExponent]
    generalize shift : (0 - Format.binary64.targetExponent
      (totalExponent (n : Int).toNat 0)).toNat = d
    have few : d ≤ 53 := by
      simp only [Format.targetExponent, totalExponent, Format.mantissaBits,
        Format.minExponent] at shift
      omega
    have bits : (n : Int).toNat <<< d < 2 ^ (k + d) := by
      rw [Int.toNat_natCast, Nat.shiftLeft_eq, Nat.pow_add]
      exact Nat.mul_lt_mul_of_pos_right h (Nat.pow_pos (by decide))
    exact (exponentLE_roundWithAccuracy (k + d) .positive (0 - d) bits).mono (by omega)

/-- An integer of scientific form without a power of ten. -/
theorem exponentLE_ofScientific {n : Nat} (h : n < 2 ^ 62) :
    ExponentLE 300 (UnpackedFloat.ofScientific Format.binary64 n 0) := by
  have power : (2 : Int) ^ Format.binary64.exponentBits = 2048 := rfl
  rw [UnpackedFloat.ofScientific]
  split
  · trivial
  · rw [if_neg (by decide), if_neg (by omega), if_pos (Int.le_refl 0)]
    have bits : n <<< Format.binary64.mantissaBits * 10 ^ (0 : Int).toNat < 2 ^ 115 := by
      rw [Int.toNat_zero, Nat.pow_zero, Nat.mul_one, Nat.shiftLeft_eq,
        show Format.binary64.mantissaBits = 53 from rfl]
      omega
    rw [UnpackedFloat.mul]
    generalize n <<< Format.binary64.mantissaBits * 10 ^ (0 : Int).toNat = m at bits ⊢
    exact (exponentLE_roundWithAccuracy 115 _ _ bits).mono (by decide)

theorem exponentLE_unpack_ofNat {n : Nat} (h : n < 2 ^ 62) :
    ExponentLE 900 (Float.ofNat n).toModel.unpack := by
  change ExponentLE 900 (Float.ofScientific n false 0).toModel.unpack
  rw [Float.ofScientific]
  split
  · next small =>
    have whole : n.toUInt64.toNat = n :=
      UInt64.toNat_ofNat_of_lt (Nat.lt_of_lt_of_le small.1 (by decide))
    have left : ExponentLE 300 n.toUInt64.toFloat.toModel.unpack := by
      apply exponentLE_unpack_pack _ (by decide) (by decide)
      rw [UnpackedFloat.ofUInt64, whole]
      exact exponentLE_ofNat small.1 (by decide)
    have one : ExponentLE 0 (Float.exactlyRepresentablePowersOfTen[0]).toModel.unpack := by
      change (-52 : Int) ≤ 0
      decide
    have product := exponentLE_mul left one
    exact exponentLE_unpack_pack (product.mono (by decide)) (by decide) (by decide)
  · exact exponentLE_unpack_pack ((exponentLE_ofScientific h).mono (by decide)) (by decide)
      (by decide)

theorem ExponentLE.neg {top : Int} {u : UnpackedFloat} (h : ExponentLE top u) :
    ExponentLE top u.neg := by
  cases u with
  | zero => exact trivial
  | infinity | notANumber => exact h.elim
  | finite => exact h

theorem exponentLE_unpack_ofInt {n : Int} (h : n.natAbs < 2 ^ 62) :
    ExponentLE 900 (Float.ofInt n).toModel.unpack := by
  cases n with
  | ofNat m => exact exponentLE_unpack_ofNat h
  | negSucc m =>
      exact exponentLE_unpack_pack (exponentLE_unpack_ofNat h).neg (by decide) (by decide)

end Exponents

/-- An integer below `2 ^ 62` in magnitude is read as a double. -/
theorem ofInt?_eq_some {n : Int} (h : n.natAbs < 2 ^ 62) : ofInt? n = some (Float.ofInt n) := by
  have finite := exponentLE_unpack_ofInt h
  have inside : (Float.ofInt n).isInf = false := by
    change (Float.ofInt n).toModel.unpack.isInf = false
    cases parts : (Float.ofInt n).toModel.unpack with
    | infinity =>
        rw [parts] at finite
        exact finite.elim
    | _ => rfl
  simp only [ofInt?, inside]
  rfl

/-- The rational number that a finite double is. -/
def value? (x : Float) : Option Rat :=
  match x.toModel.unpack with
  | .finite .positive m e _ => some (m * 2 ^ e)
  | .finite .negative m e _ => some (-(m * 2 ^ e))
  | .zero _ => some 0
  | .infinity _ => none
  | .notANumber => none

/-- A number in parts is an integer when no part of the significand lies behind the point. -/
theorem mul_two_zpow_eq_iff (m : Nat) (e n : Int) :
    (m : Rat) * 2 ^ e = n ↔
      (0 ≤ e ∨ m % Nat.pow 2 (-e).toNat = 0) ∧ (scaled m e : Int) = n := by
  rw [scaled]
  by_cases up : 0 ≤ e
  · obtain ⟨k, rfl⟩ := Int.eq_ofNat_of_zero_le up
    have power : (m : Rat) * 2 ^ (k : Int) = ((m * 2 ^ k : Nat) : Int) := by
      rw [zpow_natCast]
      push_cast
      rfl
    rw [if_pos up, power, Int.cast_inj]
    simp
  · obtain ⟨k, rfl⟩ : ∃ k : Nat, e = -(k : Int) := ⟨(-e).toNat, by omega⟩
    have pos : 0 < 2 ^ k := Nat.two_pow_pos k
    have cast : (m : Rat) * 2 ^ (-(k : Int)) = n ↔ (m : Int) = n * (2 ^ k : Nat) := by
      rw [zpow_neg, zpow_natCast, ← div_eq_mul_inv, div_eq_iff (pow_ne_zero k two_ne_zero),
        ← Int.cast_inj (α := Rat)]
      push_cast
      rfl
    rw [if_neg up, cast, neg_neg, Int.toNat_natCast]
    change _ ↔ (_ ∨ m % 2 ^ k = 0) ∧ ((m / 2 ^ k : Nat) : Int) = n
    generalize 2 ^ k = p at pos ⊢
    constructor
    · intro h
      have whole : (p : Int) ∣ m := Dvd.intro_left n h.symm
      refine ⟨.inr (Nat.mod_eq_zero_of_dvd (Int.natCast_dvd_natCast.mp whole)), ?_⟩
      rw [Int.natCast_ediv, h]
      exact Int.mul_ediv_cancel n (by omega)
    · rintro ⟨whole, rfl⟩
      have cut := Nat.div_add_mod m p
      rw [whole.resolve_left up, Nat.add_zero, Nat.mul_comm] at cut
      exact_mod_cast cut.symm

/-- The integer found for a double is the number that it is. -/
theorem whole?_eq_some_iff {x : Float} {n : Int} :
    whole? x = some n ↔ value? x = some (n : Rat) := by
  rw [whole?, isWhole, integerPart?, value?]
  cases x.toModel.unpack with
  | infinity | notANumber => simp
  | zero => simp [eq_comm]
  | finite s m e =>
      cases s with
      | positive => simp [mul_two_zpow_eq_iff]
      | negative =>
        have negative := mul_two_zpow_eq_iff m e (-n)
        rw [Int.cast_neg, ← neg_eq_iff_eq_neg] at negative
        simp [negative, neg_eq_iff_eq_neg]

/-- What is not a number is no number. -/
theorem value?_of_isNaN {x : Float} (h : x.isNaN = true) : value? x = none := by
  change x.toModel.unpack.isNaN = true at h
  rw [value?]
  cases parts : x.toModel.unpack with
  | notANumber => rfl
  | zero | infinity | finite => simp [parts, Float.Model.UnpackedFloat.isNaN] at h

/-- Only finite doubles are numbers. -/
theorem isInf_of_value {x : Float} {q : Rat} (h : value? x = some q) : x.isInf = false := by
  change x.toModel.unpack.isInf = false
  rw [value?] at h
  cases parts : x.toModel.unpack with
  | infinity => simp [parts] at h
  | zero | notANumber | finite => rfl

theorem isInf_of_isNaN {x : Float} (h : x.isNaN = true) : x.isInf = false := by
  change x.toModel.unpack.isNaN = true at h
  change x.toModel.unpack.isInf = false
  cases parts : x.toModel.unpack with
  | infinity => simp [parts, Float.Model.UnpackedFloat.isNaN] at h
  | zero | notANumber | finite => rfl

end Reservoir.Number
