import Reservoir.Proofs.Number.Whole

/-!
# Integers that doubles hold exactly

A natural number of at most 53 bits is held exactly by a double. Its significand is filled up
with zeros from the right until the leading bit stands at place 52; such a significand goes
through rounding, packing and unpacking unchanged, and so does its product with the double one.

Any natural number is read as a double that is neither negative nor a NaN, however it is
rounded: `Upright` is kept by every step of the conversion. If the double is not an infinity
either, it has an integer part.
-/

namespace Reservoir.Number

section Parts

open Float.Model Float.Model.UnpackedFloat

/-- The leading bit of a significand stands at place 52. -/
def Full (m : Nat) : Prop := 2 ^ 52 ≤ m ∧ m < 2 ^ 53

variable {m n : Nat} {e : Int} {s : Sign}

theorem Full.pos (h : Full m) : 0 < m :=
  Nat.lt_of_lt_of_le (Nat.two_pow_pos 52) h.1

/-- A number of at most 53 bits is made full by zeros from the right. -/
theorem full_mul_two_pow (pos : 0 < n) (bits : n < 2 ^ 53) : Full (n * 2 ^ (52 - n.log2)) := by
  have log : n.log2 ≤ 52 := Nat.le_of_lt_succ ((Nat.log2_lt (Nat.ne_of_gt pos)).mpr bits)
  obtain ⟨d, hd⟩ := Nat.exists_eq_add_of_le log
  have lower := Nat.mul_le_mul_right (2 ^ d) (Nat.log2_self_le (Nat.ne_of_gt pos))
  have upper := Nat.mul_lt_mul_of_pos_right (Nat.lt_log2_self (n := n)) (Nat.two_pow_pos d)
  rw [← Nat.pow_add] at lower upper
  have width : 52 - n.log2 = d := by omega
  rw [Full, width, show (52 : Nat) = n.log2 + d from hd, show 53 = n.log2 + 1 + d by omega]
  exact ⟨lower, upper⟩

theorem log2_mul_two_pow (pos : 0 < n) (d : Nat) : (n * 2 ^ d).log2 = n.log2 + d := by
  have nonzero : n * 2 ^ d ≠ 0 := Nat.ne_of_gt (Nat.mul_pos pos (Nat.two_pow_pos d))
  rw [Nat.log2_eq_iff nonzero, show n.log2 + d + 1 = n.log2 + 1 + d by omega, Nat.pow_add,
    Nat.pow_add]
  exact ⟨Nat.mul_le_mul_right _ (Nat.log2_self_le (Nat.ne_of_gt pos)),
    Nat.mul_lt_mul_of_pos_right Nat.lt_log2_self (Nat.two_pow_pos d)⟩

theorem Full.log2 (h : Full m) : m.log2 = 52 :=
  (Nat.log2_eq_iff (Nat.ne_of_gt h.pos)).mpr h

theorem Full.log2_mul (h : Full m) (d : Nat) : (m * 2 ^ d).log2 = 52 + d := by
  rw [log2_mul_two_pow h.pos, h.log2]

/-- Zeros that are shifted out leave no trace. -/
theorem shiftRight_mul_two_pow (m d : Nat) :
    ExtendedMantissa.ofMantissaAndAccuracy (m * 2 ^ d) .exact >>> d =
      ExtendedMantissa.ofMantissaAndAccuracy m .exact := by
  induction d generalizing m with
  | zero =>
      rw [Nat.pow_zero, Nat.mul_one]
      rfl
  | succ d ih =>
      change ExtendedMantissa.shiftRightOne
        (ExtendedMantissa.ofMantissaAndAccuracy (m * 2 ^ (d + 1)) .exact >>> d) = _
      rw [show m * 2 ^ (d + 1) = (2 * m) * 2 ^ d by rw [Nat.pow_succ]; ring, ih]
      simp [ExtendedMantissa.shiftRightOne, ExtendedMantissa.ofMantissaAndAccuracy]

theorem shiftToTargetExponent_full (h : Full m) (d : Nat) (low : -1074 ≤ e + d) :
    shiftToTargetExponent Format.binary64 (m * 2 ^ d) e .exact =
      (ExtendedMantissa.ofMantissaAndAccuracy m .exact, e + d) := by
  have target : Format.binary64.targetExponent (totalExponent (m * 2 ^ d) e) = e + d := by
    simp only [Format.targetExponent, totalExponent, h.log2_mul, Format.mantissaBits,
      Format.minExponent]
    omega
  have amount : (e + d - e).toNat = d := by omega
  rw [shiftToTargetExponent, target, shiftToExponent, amount, shiftRight_mul_two_pow]

/-- A significand is shifted and rounded, and shifted once more in case it was rounded up to a
further bit. -/
theorem roundWithAccuracy_of_shifts {em : ExtendedMantissa} {f g : Int} (pos : 0 < m)
    (first : shiftToTargetExponent Format.binary64 n e .exact = (em, f))
    (second : shiftToTargetExponent Format.binary64 em.roundedMantissa f .exact =
      (ExtendedMantissa.ofMantissaAndAccuracy m .exact, g)) :
    roundWithAccuracy Format.binary64 s n e .exact = .finite s m g pos := by
  have mantissa : (ExtendedMantissa.ofMantissaAndAccuracy m .exact).mantissa = m := rfl
  simp only [roundWithAccuracy, first, second, mantissa, dif_neg (Nat.ne_of_gt pos)]

/-- A full significand with zeros behind it is not rounded. -/
theorem roundWithAccuracy_full (h : Full m) (d : Nat) (low : -1074 ≤ e + d) :
    roundWithAccuracy Format.binary64 s (m * 2 ^ d) e .exact = .finite s m (e + d) h.pos := by
  have again := shiftToTargetExponent_full h 0 (e := e + d) (by omega)
  rw [Nat.pow_zero, Nat.mul_one, Nat.cast_zero, add_zero] at again
  exact roundWithAccuracy_of_shifts h.pos (shiftToTargetExponent_full h d low) again

/-- The leading bit, which is not stored, stands before the other ones again. -/
theorem toNat_append_full (h : Full m) : (1#1 ++ BitVec.ofNat 52 m).toNat = m := by
  have low : m % 2 ^ 52 < 2 ^ 52 := Nat.mod_lt m (Nat.two_pow_pos 52)
  have joined := Nat.two_pow_add_eq_or_of_lt low 1
  rw [BitVec.toNat_append, BitVec.toNat_ofNat, Nat.shiftLeft_eq, BitVec.toNat_ofNat, Nat.mul_comm]
  change 2 ^ 52 * 1 ||| m % 2 ^ 52 = m
  rw [← joined]
  obtain ⟨least, most⟩ := h
  omega

theorem ofBitVec_toBitVec (s : Sign) : Sign.ofBitVec s.toBitVec = s := by
  cases s <;> rfl

theorem unpack_packComponents_full (h : Full m) {field : BitVec 11} (normal : 0 < field.toNat)
    (finite : field.toNat < 2047) :
    UnpackedFloat.unpack Format.binary64
        (packComponents Format.binary64 s field (BitVec.ofNat 52 m)) =
      .finite s m (field.toNat - 1075) h.pos := by
  have not_last : field ≠ -1#11 := by
    rintro rfl
    exact absurd finite (by decide)
  have not_first : field ≠ 0#11 := by
    rintro rfl
    exact absurd normal (by decide)
  simp only [UnpackedFloat.unpack, unpackExponent_packComponents, unpackMantissa_packComponents,
    unpackSign_packComponents, if_neg not_last, if_neg not_first, toNat_append_full h,
    ofBitVec_toBitVec]
  rfl

/-- A full significand is unpacked as it was packed. -/
theorem unpack_pack_full (h : Full m) (low : -1074 ≤ e) (high : e ≤ 971) :
    (pack (.finite s m e h.pos)).unpack = .finite s m e h.pos := by
  have log : m.log2 + 1 = Format.binary64.mantissaBits := by
    rw [h.log2]
    rfl
  have biased : (e + Format.binary64.exponentBias +
      Format.binary64.mantissaBitsWithoutImplicit).toNat = (e + 1075).toNat := by
    simp only [Format.exponentBias]
    omega
  have small : ¬2 ^ Format.binary64.exponentBits ≤ (e + 1075).toNat + 1 := by
    change ¬2048 ≤ (e + 1075).toNat + 1
    omega
  have field : (BitVec.ofNat 11 (e + 1075).toNat).toNat = (e + 1075).toNat := by
    rw [BitVec.toNat_ofNat]
    omega
  simp only [Float.Model.unpack, Float.Model.pack, UnpackedFloat.pack, biased, if_neg small,
    if_pos log]
  rw [unpack_packComponents_full h (by omega) (by omega)]
  congr 1
  omega

/-- An integer below `2 ^ 53` is normalized without rounding. -/
theorem ofNat_eq_finite (pos : 0 < n) (bits : n < 2 ^ 53) :
    UnpackedFloat.ofNat Format.binary64 n = .finite .positive (n * 2 ^ (52 - n.log2))
      (-((52 - n.log2 : Nat) : Int)) (full_mul_two_pow pos bits).pos := by
  have log : n.log2 ≤ 52 := Nat.le_of_lt_succ ((Nat.log2_lt (Nat.ne_of_gt pos)).mpr bits)
  have sign : compare (n : Int) 0 = .gt := Int.compare_eq_gt.mpr (by omega)
  have amount : (0 - Format.binary64.targetExponent (totalExponent n 0)).toNat = 52 - n.log2 := by
    simp only [Format.targetExponent, totalExponent, Format.mantissaBits, Format.minExponent]
    omega
  simp only [UnpackedFloat.ofNat, UnpackedFloat.ofInt, UnpackedFloat.normalize, sign,
    Int.toNat_natCast, UnpackedFloat.round, decreaseExponent, amount, Nat.shiftLeft_eq]
  have rounded := roundWithAccuracy_full (s := .positive) (full_mul_two_pow pos bits) 0
    (e := 0 - ((52 - n.log2 : Nat) : Int)) (by omega)
  rw [Nat.pow_zero, Nat.mul_one] at rounded
  rw [rounded]
  congr 1
  omega

/-- The product with one. -/
theorem mul_one_full (h : Full m) (low : -1074 ≤ e) :
    UnpackedFloat.mul Format.binary64 (.finite .positive m e h.pos)
        (.finite .positive (2 ^ 52) (-52) (Nat.two_pow_pos 52)) =
      .finite .positive m e h.pos := by
  have rounded := roundWithAccuracy_full (s := .positive) h 52 (e := e + -52) (by omega)
  have sum : e + -52 + (52 : Nat) = e := by omega
  rw [UnpackedFloat.mul]
  simp only [sum] at rounded
  exact rounded

theorem unpack_one : (Float.exactlyRepresentablePowersOfTen[0]).toModel.unpack =
    .finite .positive (2 ^ 52) (-52) (Nat.two_pow_pos 52) := rfl

/-- The parts of the double of an integer below `2 ^ 53`. -/
theorem unpack_ofNat (pos : 0 < n) (bits : n < 2 ^ 53) :
    (Float.ofNat n).toModel.unpack = .finite .positive (n * 2 ^ (52 - n.log2))
      (-((52 - n.log2 : Nat) : Int)) (full_mul_two_pow pos bits).pos := by
  have full := full_mul_two_pow pos bits
  have whole : n.toUInt64.toNat = n :=
    UInt64.toNat_ofNat_of_lt (Nat.lt_of_lt_of_le bits (by decide))
  have left : n.toUInt64.toFloat.toModel.unpack = .finite .positive (n * 2 ^ (52 - n.log2))
      (-((52 - n.log2 : Nat) : Int)) full.pos := by
    change (pack (UnpackedFloat.ofUInt64 Format.binary64 n.toUInt64)).unpack = _
    rw [UnpackedFloat.ofUInt64, whole, ofNat_eq_finite pos bits]
    exact unpack_pack_full full (by omega) (by omega)
  change (Float.ofScientific n false 0).toModel.unpack = _
  rw [Float.ofScientific, dif_pos ⟨bits, by decide⟩]
  change (pack (UnpackedFloat.mul Format.binary64 n.toUInt64.toFloat.toModel.unpack
    (Float.exactlyRepresentablePowersOfTen[0]).toModel.unpack)).unpack = _
  rw [left, unpack_one, mul_one_full full (by omega)]
  exact unpack_pack_full full (by omega) (by omega)

/-- The least integer of 54 bits. -/
theorem unpack_ofNat_two_pow : (Float.ofNat (2 ^ 53)).toModel.unpack =
    .finite .positive (2 ^ 52) 1 (Nat.two_pow_pos 52) := rfl

/-- An integer of more than 53 bits is rounded once and packed. -/
theorem unpack_ofNat_of_le (wide : 2 ^ 53 ≤ n) :
    (Float.ofNat n).toModel.unpack =
      (pack (roundWithAccuracy Format.binary64 .positive (n * 2 ^ 53) (-53) .exact)).unpack := by
  have pos : n ≠ 0 := by omega
  have large : ¬(n < 2 ^ 53 ∧ 0 ≤ 22) := fun both => Nat.not_lt.mpr wide both.1
  have power : (2 : Int) ^ Format.binary64.exponentBits = 2048 := rfl
  have significand : n <<< Format.binary64.mantissaBits * 10 ^ (0 : Int).toNat = n * 2 ^ 53 := by
    rw [Int.toNat_zero, Nat.pow_zero, Nat.mul_one, Nat.shiftLeft_eq]
    rfl
  change (Float.ofScientific n false 0).toModel.unpack = _
  rw [Float.ofScientific, dif_neg large]
  change (pack (UnpackedFloat.ofScientific Format.binary64 n 0)).unpack = _
  rw [UnpackedFloat.ofScientific, dif_neg pos, if_neg (by decide), if_neg (by omega),
    if_pos (Int.le_refl 0), UnpackedFloat.mul]
  simp only [significand]
  rfl

/-- A power of two too large for the exponent of a double. -/
theorem unpack_ofNat_two_pow_of_le {k : Nat} (h : 1024 ≤ k) :
    (Float.ofNat (2 ^ k)).toModel.unpack = .infinity .positive := by
  have full : Full (2 ^ 52) := ⟨Nat.le_refl _, by decide⟩
  have shifted : 2 ^ k * 2 ^ 53 = 2 ^ 52 * 2 ^ (k + 1) := by
    rw [← Nat.pow_add, ← Nat.pow_add]
    congr 1
    omega
  have rounded := roundWithAccuracy_full (s := .positive) full (k + 1) (e := -53) (by omega)
  have overflow : 2 ^ Format.binary64.exponentBits ≤
      ((-53 : Int) + (k + 1 : Nat) + Format.binary64.exponentBias +
        Format.binary64.mantissaBitsWithoutImplicit).toNat + 1 := by
    change 2048 ≤ ((-53 : Int) + (k + 1 : Nat) + 1023 + 52).toNat + 1
    omega
  rw [unpack_ofNat_of_le (Nat.pow_le_pow_right (by decide) (by omega)), shifted, rounded]
  simp only [Float.Model.unpack, Float.Model.pack, UnpackedFloat.pack, if_pos overflow]
  rfl

/-- Neither negative nor a NaN. -/
def Upright : UnpackedFloat → Prop
  | .zero s => s = .positive
  | .finite s _ _ _ => s = .positive
  | .infinity s => s = .positive
  | .notANumber => False

theorem upright_roundWithAccuracy (m : Nat) (e : Int) (a : Accuracy) :
    Upright (roundWithAccuracy Format.binary64 .positive m e a) := by
  simp only [roundWithAccuracy]
  split <;> rfl

theorem upright_unpack_packComponents {field : BitVec 11} (finite : field ≠ -1#11)
    (m : BitVec 52) :
    Upright (UnpackedFloat.unpack Format.binary64
      (packComponents Format.binary64 .positive field m)) := by
  simp only [UnpackedFloat.unpack, unpackExponent_packComponents, unpackMantissa_packComponents,
    unpackSign_packComponents, if_neg finite]
  split
  · split <;> rfl
  · rfl

theorem upright_unpack_pack {u : UnpackedFloat} (h : Upright u) : Upright (pack u).unpack := by
  cases u with
  | zero s =>
      cases h
      rfl
  | infinity s =>
      cases h
      rfl
  | notANumber => exact h.elim
  | finite s m e hm =>
      cases h
      simp only [Float.Model.unpack, Float.Model.pack, UnpackedFloat.pack]
      split
      · rfl
      · next small =>
        split
        · refine upright_unpack_packComponents ?_ _
          intro same
          have value := congrArg BitVec.toNat same
          rw [BitVec.toNat_ofNat] at value
          change _ % 2048 = 2047 at value
          change ¬2048 ≤ _ + 1 at small
          omega
        · exact upright_unpack_packComponents (by decide) _

/-- The product with something finite. -/
theorem Upright.mul {u : UnpackedFloat} (h : Upright u) (m : Nat) (e : Int) (hm : 0 < m) :
    Upright (UnpackedFloat.mul Format.binary64 u (.finite .positive m e hm)) := by
  cases u with
  | zero s | infinity s =>
      cases h
      rfl
  | notANumber => exact h.elim
  | finite s n f hn =>
      cases h
      exact upright_roundWithAccuracy _ _ _

theorem upright_ofNat (n : Nat) : Upright (UnpackedFloat.ofNat Format.binary64 n) := by
  rw [UnpackedFloat.ofNat, UnpackedFloat.ofInt, UnpackedFloat.normalize]
  split
  · next negative => exact absurd (Int.compare_eq_lt.mp negative) (by omega)
  · rfl
  · exact upright_roundWithAccuracy _ _ _

theorem upright_ofScientific (n : Nat) :
    Upright (UnpackedFloat.ofScientific Format.binary64 n 0) := by
  have power : (2 : Int) ^ Format.binary64.exponentBits = 2048 := rfl
  rw [UnpackedFloat.ofScientific]
  split
  · rfl
  · rw [if_neg (by decide), if_neg (by omega), if_pos (Int.le_refl 0)]
    rw [UnpackedFloat.mul]
    exact upright_roundWithAccuracy _ _ _

/-- A natural number is read as a double that is neither negative nor a NaN. -/
theorem upright_unpack_ofNat (n : Nat) : Upright (Float.ofNat n).toModel.unpack := by
  change Upright (Float.ofScientific n false 0).toModel.unpack
  rw [Float.ofScientific]
  split
  · have left : Upright n.toUInt64.toFloat.toModel.unpack :=
      upright_unpack_pack (upright_ofNat _)
    have product := left.mul (2 ^ 52) (-52) (Nat.two_pow_pos 52)
    rw [← unpack_one] at product
    exact upright_unpack_pack product
  · exact upright_unpack_pack (upright_ofScientific n)

end Parts

/-- Integers of at most 53 bits, and the next one, are held exactly. -/
theorem integerPart?_ofNat {n : Nat} (h : n ≤ 2 ^ 53) :
    integerPart? (Float.ofNat n) = some (n : Int) := by
  rcases Nat.eq_or_lt_of_le h with rfl | bits
  · rw [integerPart?, unpack_ofNat_two_pow]
    rfl
  · rcases Nat.eq_zero_or_pos n with rfl | pos
    · rfl
    · rw [integerPart?, unpack_ofNat pos bits]
      have exact := (mul_two_zpow_eq_iff (n * 2 ^ (52 - n.log2))
        (-((52 - n.log2 : Nat) : Int)) n).mp ?_
      · exact congrArg some exact.2
      · push_cast
        rw [mul_assoc, ← zpow_natCast, ← zpow_add₀ two_ne_zero, add_neg_cancel, zpow_zero, mul_one]

/-- The least integer that no double holds is rounded to the one before it. -/
theorem integerPart?_ofNat_succ :
    integerPart? (Float.ofNat (2 ^ 53 + 1)) = some ((2 ^ 53 : Nat) : Int) := rfl

/-- Powers of two from `2 ^ 1024` on are beyond all doubles. -/
theorem ofInt?_two_pow {k : Nat} (h : 1024 ≤ k) : ofInt? ((2 ^ k : Nat) : Int) = none := by
  have infinite : (Float.ofInt ((2 ^ k : Nat) : Int)).isInf = true := by
    change (Float.ofNat (2 ^ k)).toModel.unpack.isInf = true
    rw [unpack_ofNat_two_pow_of_le h]
    rfl
  simp only [ofInt?, infinite]
  rfl

/-- A natural number that is read as a double at all has an integer part there. -/
theorem exists_integerPart?_of_ofInt? {n : Nat} {x : Float} (h : ofInt? n = some x) :
    ∃ top : Nat, integerPart? x = some (top : Int) := by
  have upright := upright_unpack_ofNat n
  simp only [ofInt?] at h
  split at h
  · cases h
  · next finite =>
    cases h
    change Float.isInf (Float.ofNat n) ≠ true at finite
    change ∃ top : Nat, integerPart? (Float.ofNat n) = some (top : Int)
    change (Float.ofNat n).toModel.unpack.isInf ≠ true at finite
    rw [integerPart?]
    cases parts : (Float.ofNat n).toModel.unpack with
    | zero => exact ⟨0, rfl⟩
    | infinity s =>
        rw [parts] at finite
        exact absurd rfl finite
    | notANumber =>
        rw [parts] at upright
        exact upright.elim
    | finite s m e hm =>
        rw [parts] at upright
        cases upright
        exact ⟨scaled m e, rfl⟩

end Reservoir.Number
