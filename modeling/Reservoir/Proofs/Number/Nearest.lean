import Mathlib.Tactic.Ring
import Reservoir.Proofs.Number.Exact

/-!
# The double nearest to an integer

The doubles from `2 ^ k` up to `2 ^ (k + 1)` that are integers lie `2 ^ (k - 52)` apart.
`nearest n` is the multiple of that distance that is closest to `n`; a tie goes to the even
multiple. Integers of at most 53 significant bits are their own nearest ones, others are not.

`value?_ofInt` says that this is the number an integer becomes when it is read as a double. A
shift of the significand divides it, and what it drops is kept as an `Accuracy`; rounding then
carries into the quotient, and at most once into the exponent.
-/

namespace Reservoir.Number

/-- The quotient rounded to an integer. A tie goes to the even one. -/
def roundedQuotient (n d : Nat) : Nat :=
  match compare (2 * (n % d)) d with
  | .lt => n / d
  | .eq => n / d + n / d % 2
  | .gt => n / d + 1

/-- How far doubles of the magnitude of an integer lie apart, if they are integers. -/
def spacing (n : Nat) : Nat := 2 ^ (n.log2 - 52)

/-- The integer that a double nearest to an integer is. -/
def nearest (n : Int) : Int :=
  n.sign * (roundedQuotient n.natAbs (spacing n.natAbs) * spacing n.natAbs : Nat)

section Quotient

variable {n d : Nat}

theorem spacing_pos (n : Nat) : 0 < spacing n := Nat.two_pow_pos _

theorem spacing_of_lt (h : n < 2 ^ 53) : spacing n = 1 := by
  rcases Nat.eq_zero_or_pos n with rfl | pos
  · rfl
  · have log : n.log2 < 53 := (Nat.log2_lt (Nat.ne_of_gt pos)).mpr h
    rw [spacing, show n.log2 - 52 = 0 by omega, Nat.pow_zero]

theorem roundedQuotient_bounds (n d : Nat) :
    n / d ≤ roundedQuotient n d ∧ roundedQuotient n d ≤ n / d + 1 := by
  rw [roundedQuotient]
  split <;> omega

/-- The multiple is no farther away than half the distance of two. -/
theorem two_mul_dist_roundedQuotient (pos : 0 < d) :
    2 * (roundedQuotient n d * d) ≤ 2 * n + d ∧ 2 * n ≤ 2 * (roundedQuotient n d * d) + d := by
  have cut := Nat.div_add_mod' n d
  have rest := Nat.mod_lt n pos
  rw [roundedQuotient]
  split
  · next below =>
    have below := Nat.compare_eq_lt.mp below
    omega
  · next tie =>
    have tie := Nat.compare_eq_eq.mp tie
    rcases Nat.mod_two_eq_zero_or_one (n / d) with even | odd
    · rw [even, Nat.add_zero]
      omega
    · rw [odd, Nat.add_mul]
      omega
  · next above =>
    have above := Nat.compare_eq_gt.mp above
    rw [Nat.add_mul]
    omega

/-- Only multiples are not moved. -/
theorem roundedQuotient_mul_eq_iff (pos : 0 < d) : roundedQuotient n d * d = n ↔ d ∣ n := by
  constructor
  · exact fun h => Dvd.intro_left _ h
  · intro whole
    have none : n % d = 0 := Nat.mod_eq_zero_of_dvd whole
    have below : compare (2 * (n % d)) d = .lt := Nat.compare_eq_lt.mpr (by omega)
    rw [roundedQuotient, below]
    exact Nat.div_mul_cancel whole

theorem nearest_neg (n : Int) : nearest (-n) = -nearest n := by
  rw [nearest, nearest, Int.sign_neg, Int.natAbs_neg, Int.neg_mul]

theorem nearest_natCast (n : Nat) :
    nearest n = (roundedQuotient n (spacing n) * spacing n : Nat) := by
  rw [nearest, Int.natAbs_natCast]
  rcases Nat.eq_zero_or_pos n with rfl | pos
  · rfl
  · rw [Int.sign_natCast_of_ne_zero (Nat.ne_of_gt pos), Int.one_mul]

/-- Integers of at most 53 significant bits are kept. -/
theorem nearest_eq_iff {n : Int} : nearest n = n ↔ spacing n.natAbs ∣ n.natAbs := by
  have kept : ∀ k : Nat, nearest k = k ↔ spacing k ∣ k := by
    intro k
    rw [nearest_natCast, Int.natCast_inj, roundedQuotient_mul_eq_iff (spacing_pos k)]
  rcases Int.eq_nat_or_neg n with ⟨k, rfl | rfl⟩
  · rw [Int.natAbs_natCast]
    exact kept k
  · rw [nearest_neg, Int.neg_inj, Int.natAbs_neg, Int.natAbs_natCast]
    exact kept k

theorem nearest_of_lt {n : Int} (h : n.natAbs < 2 ^ 53) : nearest n = n :=
  nearest_eq_iff.mpr (by rw [spacing_of_lt h]; exact Nat.one_dvd _)

/-- The nearest double is off by half the spacing at most. -/
theorem two_mul_natAbs_nearest_sub (n : Int) :
    2 * (nearest n - n).natAbs ≤ spacing n.natAbs := by
  have close : ∀ k : Nat, 2 * (nearest k - k).natAbs ≤ spacing k := by
    intro k
    have dist := two_mul_dist_roundedQuotient (n := k) (spacing_pos k)
    rw [nearest_natCast]
    omega
  rcases Int.eq_nat_or_neg n with ⟨k, rfl | rfl⟩
  · rw [Int.natAbs_natCast]
    exact close k
  · have opposite : -nearest k - -(k : Int) = -(nearest k - k) := by omega
    rw [nearest_neg, opposite, Int.natAbs_neg, Int.natAbs_neg, Int.natAbs_natCast]
    exact close k

theorem spacing_le (pos : 0 < n) : spacing n ≤ n := by
  calc
    spacing n ≤ 2 ^ n.log2 := Nat.pow_le_pow_right (by decide) (Nat.sub_le ..)
    _ ≤ n := Nat.log2_self_le (Nat.ne_of_gt pos)

theorem natAbs_nearest_lt {n : Int} (h : n.natAbs < 2 ^ 62) : (nearest n).natAbs < 2 ^ 63 := by
  rcases Nat.eq_zero_or_pos n.natAbs with zero | pos
  · rw [Int.natAbs_eq_zero.mp zero]
    decide
  · have near := two_mul_natAbs_nearest_sub n
    have apart := spacing_le pos
    omega

/-- The least integer that is moved. -/
example : nearest (2 ^ 53 + 1) = 2 ^ 53 := by decide

end Quotient

section Parts

open Float.Model Float.Model.UnpackedFloat

variable {n d k : Nat}

theorem roundToNearestEven_accuracyOfFraction (pos : 0 < d) :
    (accuracyOfFraction (n % d) d).roundToNearestEven (n / d) = roundedQuotient n d := by
  rw [accuracyOfFraction, roundedQuotient]
  split
  · next none =>
    have below : compare (2 * (n % d)) d = .lt := Nat.compare_eq_lt.mpr (by omega)
    rw [below]
    rfl
  · cases compare (2 * (n % d)) d <;> rfl

theorem accuracyOfFraction_of_compare {r : Nat} {o : Ordering} (ne : r ≠ 0)
    (h : compare (2 * r) d = o) : accuracyOfFraction r d = .inexact o := by
  rw [accuracyOfFraction, if_neg ne, h]

/-- The bits of a mantissa that were shifted out are all zero just when it is exact. -/
theorem or_eq_decide_of_accuracy {em : ExtendedMantissa} {r : Nat}
    (h : em.accuracy = accuracyOfFraction r d) :
    (em.roundBit || em.stickyBit) = decide (r ≠ 0) := by
  obtain ⟨m, round, sticky⟩ := em
  rw [accuracyOfFraction] at h
  split at h
  · next none =>
    cases round <;> cases sticky <;> cases h
    simp [none]
  · next some =>
    cases round <;> cases sticky
    · cases h
    all_goals simp [some]

/-- One more bit is shifted out: the last one of the mantissa joins what was left over. -/
theorem accuracy_shiftRightOne {em : ExtendedMantissa} {r : Nat}
    (h : em.accuracy = accuracyOfFraction r d) (rest : r < d) :
    em.shiftRightOne.accuracy = accuracyOfFraction (r + d * (em.mantissa % 2)) (d * 2) := by
  have bits := or_eq_decide_of_accuracy h
  rw [ExtendedMantissa.shiftRightOne, bits]
  rcases Nat.mod_two_eq_zero_or_one em.mantissa with even | odd
  · rw [even, Nat.mul_zero, Nat.add_zero]
    by_cases none : r = 0
    · rw [none]
      rfl
    · rw [decide_eq_true none,
        accuracyOfFraction_of_compare none (Nat.compare_eq_lt.mpr (by omega))]
      rfl
  · rw [odd, Nat.mul_one]
    by_cases none : r = 0
    · rw [none, accuracyOfFraction_of_compare (by omega) (Nat.compare_eq_eq.mpr (by omega))]
      rfl
    · rw [decide_eq_true none,
        accuracyOfFraction_of_compare (by omega) (Nat.compare_eq_gt.mpr (by omega))]
      rfl

/-- A shift divides, and keeps account of what is left over. -/
theorem shiftRight_exact (n k : Nat) :
    (ExtendedMantissa.ofMantissaAndAccuracy n .exact >>> k).mantissa = n / 2 ^ k ∧
      (ExtendedMantissa.ofMantissaAndAccuracy n .exact >>> k).accuracy =
        accuracyOfFraction (n % 2 ^ k) (2 ^ k) := by
  induction k with
  | zero =>
      rw [Nat.pow_zero, Nat.div_one, Nat.mod_one]
      exact ⟨rfl, rfl⟩
  | succ k ih =>
      obtain ⟨mantissa, accuracy⟩ := ih
      have step := accuracy_shiftRightOne accuracy (Nat.mod_lt n (Nat.two_pow_pos k))
      rw [mantissa, ← Nat.mod_mul, ← Nat.pow_succ] at step
      refine ⟨?_, step⟩
      change (ExtendedMantissa.ofMantissaAndAccuracy n .exact >>> k).mantissa / 2 = _
      rw [mantissa, Nat.div_div_eq_div_mul, ← Nat.pow_succ]

/-- Shifting and rounding is division and rounding. -/
theorem roundedMantissa_shiftRight (n k : Nat) :
    (ExtendedMantissa.ofMantissaAndAccuracy n .exact >>> k).roundedMantissa =
      roundedQuotient n (2 ^ k) := by
  obtain ⟨mantissa, accuracy⟩ := shiftRight_exact n k
  rw [ExtendedMantissa.roundedMantissa, mantissa, accuracy,
    roundToNearestEven_accuracyOfFraction (Nat.two_pow_pos k)]

theorem roundedQuotient_mul_mul {c : Nat} (pos : 0 < c) (n d : Nat) :
    roundedQuotient (n * c) (d * c) = roundedQuotient n d := by
  have same : compare (2 * (n % d * c)) (d * c) = compare (2 * (n % d)) d := by
    rw [← Nat.mul_assoc]
    cases order : compare (2 * (n % d)) d with
    | lt =>
        exact Nat.compare_eq_lt.mpr
          (Nat.mul_lt_mul_of_pos_right (Nat.compare_eq_lt.mp order) pos)
    | eq => exact Nat.compare_eq_eq.mpr (congrArg (· * c) (Nat.compare_eq_eq.mp order))
    | gt =>
        exact Nat.compare_eq_gt.mpr
          (Nat.mul_lt_mul_of_pos_right (Nat.compare_eq_gt.mp order) pos)
  rw [roundedQuotient, roundedQuotient, Nat.mul_mod_mul_right, Nat.mul_div_mul_right _ _ pos, same]

theorem two_pow_log2_eq (wide : 52 ≤ n.log2) : 2 ^ n.log2 = 2 ^ 52 * spacing n := by
  rw [spacing, ← Nat.pow_add]
  congr 1
  omega

/-- The quotient by the spacing has 53 bits; rounding it may carry into one bit more. -/
theorem roundedQuotient_spacing (pos : 0 < n) (wide : 52 ≤ n.log2) :
    2 ^ 52 ≤ roundedQuotient n (spacing n) ∧ roundedQuotient n (spacing n) ≤ 2 ^ 53 := by
  have least := Nat.log2_self_le (Nat.ne_of_gt pos)
  have most := Nat.lt_log2_self (n := n)
  rw [two_pow_log2_eq wide] at least
  rw [Nat.pow_succ, two_pow_log2_eq wide] at most
  have bounds := roundedQuotient_bounds n (spacing n)
  have lower : 2 ^ 52 ≤ n / spacing n := (Nat.le_div_iff_mul_le (spacing_pos n)).mpr least
  have upper : n / spacing n < 2 ^ 53 := by
    rw [Nat.div_lt_iff_lt_mul (spacing_pos n)]
    omega
  omega

/-- A significand of more than 53 bits is rounded to a multiple of its spacing. -/
theorem roundWithAccuracy_wide (pos : 0 < n) (wide : 52 ≤ n.log2) {e : Int} (low : -1074 ≤ e)
    (s : Sign) :
    ∃ (m : Nat) (f : Int) (full : Full m),
      roundWithAccuracy Format.binary64 s n e .exact = .finite s m f full.pos ∧
        e ≤ f ∧ f ≤ e + n.log2 ∧
          (m : Rat) * 2 ^ f = (roundedQuotient n (spacing n) * spacing n : Nat) * 2 ^ e := by
  have target : Format.binary64.targetExponent (totalExponent n e) = e + (n.log2 - 52 : Nat) := by
    simp only [Format.targetExponent, totalExponent, Format.mantissaBits, Format.minExponent]
    omega
  have amount : (e + (n.log2 - 52 : Nat) - e).toNat = n.log2 - 52 := by omega
  have first : shiftToTargetExponent Format.binary64 n e .exact =
      (ExtendedMantissa.ofMantissaAndAccuracy n .exact >>> (n.log2 - 52),
        e + (n.log2 - 52 : Nat)) := by
    rw [shiftToTargetExponent, target, shiftToExponent, amount]
  have power : ∀ q : Nat, (q : Rat) * 2 ^ (e + (n.log2 - 52 : Nat) : Int) =
      (q * spacing n : Nat) * 2 ^ e := by
    intro q
    rw [spacing, zpow_add₀ two_ne_zero, zpow_natCast]
    push_cast
    ring
  have rounded : (ExtendedMantissa.ofMantissaAndAccuracy n .exact >>> (n.log2 - 52)).roundedMantissa
      = roundedQuotient n (spacing n) := roundedMantissa_shiftRight n _
  obtain ⟨least, most⟩ := roundedQuotient_spacing pos wide
  rcases Nat.lt_or_eq_of_le most with less | carry
  · have full : Full (roundedQuotient n (spacing n)) := ⟨least, less⟩
    have second := shiftToTargetExponent_full full 0 (e := e + (n.log2 - 52 : Nat)) (by omega)
    rw [Nat.pow_zero, Nat.mul_one, Nat.cast_zero, add_zero] at second
    refine ⟨_, _, full, roundWithAccuracy_of_shifts full.pos first ?_, ?_, ?_, power _⟩
    · rw [rounded, second]
    · omega
    · omega
  · -- The carry leaves a power of two, of which the last bit is shifted out.
    have full : Full (2 ^ 52) := ⟨Nat.le_refl _, by decide⟩
    have second := shiftToTargetExponent_full full 1 (e := e + (n.log2 - 52 : Nat)) (by omega)
    rw [show 2 ^ 52 * 2 ^ 1 = 2 ^ 53 from rfl, ← carry, ← rounded] at second
    refine ⟨2 ^ 52, _, full, roundWithAccuracy_of_shifts full.pos first second, ?_, ?_, ?_⟩
    · omega
    · omega
    · rw [← power, carry, Nat.cast_one, zpow_add_one₀ two_ne_zero]
      push_cast
      ring

/-- The parts of the double of a positive integer: a full significand, and a product that is the
nearest integer. -/
theorem exists_unpack_ofNat (pos : 0 < n) (h : n < 2 ^ 64) :
    ∃ (m : Nat) (e : Int) (full : Full m),
      (Float.ofNat n).toModel.unpack = .finite .positive m e full.pos ∧
        -1074 ≤ e ∧ e ≤ 971 ∧ (m : Rat) * 2 ^ e = ((nearest n : Int) : Rat) := by
  by_cases few : n < 2 ^ 53
  · refine ⟨_, _, full_mul_two_pow pos few, unpack_ofNat pos few, by omega, by omega, ?_⟩
    rw [nearest_of_lt (n := n) few]
    push_cast
    rw [mul_assoc, ← zpow_natCast, ← zpow_add₀ two_ne_zero, add_neg_cancel, zpow_zero, mul_one]
  · have log : 53 ≤ n.log2 := (Nat.le_log2 (Nat.ne_of_gt pos)).mpr (Nat.not_lt.mp few)
    have bits : n.log2 < 64 := (Nat.log2_lt (Nat.ne_of_gt pos)).mpr h
    have shifted := log2_mul_two_pow pos 53
    obtain ⟨m, e, full, rounded, least, most, value⟩ := roundWithAccuracy_wide (s := .positive)
      (Nat.mul_pos pos (Nat.two_pow_pos 53)) (by omega) (show -1074 ≤ (-53 : Int) by decide)
    have spaced : spacing (n * 2 ^ 53) = spacing n * 2 ^ 53 := by
      rw [spacing, spacing, shifted, ← Nat.pow_add]
      congr 1
      omega
    have bounded : -1074 ≤ e ∧ e ≤ 971 := by omega
    refine ⟨m, e, full, ?_, bounded.1, bounded.2, ?_⟩
    · rw [unpack_ofNat_of_le (Nat.not_lt.mp few), rounded]
      exact unpack_pack_full full bounded.1 bounded.2
    · rw [value, spaced, roundedQuotient_mul_mul (Nat.two_pow_pos 53), nearest_natCast]
      push_cast
      rw [zpow_neg, ← mul_assoc]
      exact mul_inv_cancel_right₀ (by norm_num) _

end Parts

section Doubles

open Float.Model Float.Model.UnpackedFloat

/-- An integer is read as the double nearest to it. -/
theorem value?_ofInt {n : Int} (h : n.natAbs < 2 ^ 64) :
    value? (Float.ofInt n) = some (nearest n : Rat) := by
  cases n with
  | ofNat n =>
      rcases Nat.eq_zero_or_pos n with rfl | pos
      · rfl
      · obtain ⟨m, e, full, parts, _, _, value⟩ := exists_unpack_ofNat pos h
        change value? (Float.ofNat n) = _
        rw [value?, parts]
        exact congrArg some value
  | negSucc n =>
      obtain ⟨m, e, full, parts, low, high, value⟩ := exists_unpack_ofNat (Nat.succ_pos n) h
      have negative : (Float.ofInt (.negSucc n)).toModel.unpack =
          .finite .negative m e full.pos := by
        change (pack (Float.ofNat (n + 1)).toModel.unpack.neg).unpack = _
        rw [parts]
        exact unpack_pack_full full low high
      rw [value?, negative, Int.negSucc_eq, nearest_neg]
      push_cast at value ⊢
      exact congrArg (fun q => some (-q)) value

/-- An integer is read as a double that equals the integer nearest to it. -/
theorem whole?_ofInt {n : Int} (h : n.natAbs < 2 ^ 64) :
    whole? (Float.ofInt n) = some (nearest n) :=
  whole?_eq_some_iff.mpr (value?_ofInt h)

end Doubles

end Reservoir.Number
