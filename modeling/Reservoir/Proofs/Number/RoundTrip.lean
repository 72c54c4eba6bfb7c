import Reservoir.Proofs.Number.Classes

/-!
# Doubles that are packed and unpacked again

The parts of a double are `Canonical`: the significand is full, or short with the least exponent.
Such parts go through packing and unpacking unchanged, so that an operation which only hands its
operand on loses nothing. Taking zero off the sum with zero is one: it leaves every double as it
is, but for the sign of a zero.
-/

namespace Reservoir.Number

section Parts

open Float.Model Float.Model.UnpackedFloat

variable {u : UnpackedFloat}

/-- Parts as they stand in a double. -/
def Canonical : UnpackedFloat → Prop
  | .zero _ => True
  | .infinity _ => True
  | .notANumber => True
  | .finite _ m e _ => Full m ∧ -1074 ≤ e ∧ e ≤ 971 ∨ m < 2 ^ 52 ∧ e = -1074

theorem toNat_one_append (m : BitVec 52) : (1#1 ++ m).toNat = 2 ^ 52 + m.toNat := by
  rw [BitVec.toNat_append, ← Nat.shiftLeft_add_eq_or_of_lt m.isLt]
  rfl

theorem canonical_unpack (x : Float.Model) : Canonical x.unpack := by
  simp only [Float.Model.unpack, UnpackedFloat.unpack]
  have short : (@unpackMantissa Format.binary64 x.toBits.toBitVec).toNat < 2 ^ 52 := BitVec.isLt _
  have wide : (@unpackExponent Format.binary64 x.toBits.toBitVec).toNat < 2048 := BitVec.isLt _
  split
  · split <;> exact trivial
  · next not_last =>
    split
    · next first =>
      split
      · exact trivial
      · refine .inr ⟨short, ?_⟩
        rw [first]
        rfl
    · next not_first =>
      have last : (@unpackExponent Format.binary64 x.toBits.toBitVec).toNat ≠ 2047 :=
        fun same => not_last (BitVec.eq_of_toNat_eq same)
      have least : (@unpackExponent Format.binary64 x.toBits.toBitVec).toNat ≠ 0 :=
        fun same => not_first (BitVec.eq_of_toNat_eq same)
      refine .inl ⟨?_, ?_, ?_⟩
      · rw [Full, toNat_one_append]
        omega
      · simp only [Format.exponentBias]
        omega
      · simp only [Format.exponentBias]
        omega

/-- A short significand with the least exponent is unpacked as it was packed. -/
theorem unpack_pack_short {s : Sign} {m : Nat} (pos : 0 < m) (short : m < 2 ^ 52) :
    (pack (.finite s m (-1074) pos)).unpack = .finite s m (-1074) pos := by
  have log : m.log2 + 1 ≠ Format.binary64.mantissaBits := by
    have bits := (Nat.log2_lt (Nat.ne_of_gt pos)).mpr short
    change m.log2 + 1 ≠ 53
    omega
  have stored : (BitVec.ofNat 52 m).toNat = m :=
    (BitVec.toNat_ofNat m 52).trans (Nat.mod_eq_of_lt short)
  have nonzero : BitVec.ofNat 52 m ≠ 0#52 := by
    intro same
    rw [same] at stored
    exact Nat.ne_of_gt pos stored.symm
  have small : ¬2 ^ Format.binary64.exponentBits ≤ ((-1074 : Int) + Format.binary64.exponentBias +
      Format.binary64.mantissaBitsWithoutImplicit).toNat + 1 := by decide
  simp only [Float.Model.unpack, Float.Model.pack, UnpackedFloat.pack, if_neg small, if_neg log]
  simp only [UnpackedFloat.unpack, unpackExponent_packComponents, unpackMantissa_packComponents,
    unpackSign_packComponents, ofBitVec_toBitVec]
  rw [if_neg (by decide), if_pos trivial, dif_neg nonzero]
  congr 1

/-- Canonical parts are unpacked as they were packed. -/
theorem unpack_pack_of_canonical (h : Canonical u) : (pack u).unpack = u := by
  cases u with
  | zero s | infinity s => cases s <;> rfl
  | notANumber => rfl
  | finite s m e hm =>
      rcases h with ⟨full, low, high⟩ | ⟨short, rfl⟩
      · exact unpack_pack_full full low high
      · exact unpack_pack_short hm short

/-- The same double, but for the sign of a zero. -/
def positiveZero : UnpackedFloat → UnpackedFloat
  | .zero _ => .zero .positive
  | u => u

theorem Canonical.positiveZero (h : Canonical u) : Canonical (positiveZero u) := by
  cases u with
  | zero => exact trivial
  | infinity | finite | notANumber => exact h

theorem isNaN_positiveZero (u : UnpackedFloat) : (positiveZero u).isNaN = u.isNaN := by
  cases u <;> rfl

theorem zero_add_eq (u : UnpackedFloat) :
    UnpackedFloat.add Format.binary64 (.zero .positive) u = positiveZero u := by
  cases u with
  | zero s => cases s <;> rfl
  | infinity | finite | notANumber => rfl

theorem positiveZero_sub_zero (u : UnpackedFloat) :
    UnpackedFloat.sub Format.binary64 (positiveZero u) (.zero .positive) = positiveZero u := by
  cases u <;> rfl

/-- Every double but a NaN is equal to itself, and so it is whatever the sign of a zero. -/
theorem positiveZero_beq (u : UnpackedFloat) : (positiveZero u).beq u = !u.isNaN := by
  rw [UnpackedFloat.beq]
  cases u with
  | zero | notANumber => rfl
  | infinity s => cases s <;> rfl
  | finite s m e =>
      have same : (compare e e).then (compare m m) = .eq := by
        rw [Int.compare_eq_eq.mpr rfl, Nat.compare_eq_eq.mpr rfl]
        rfl
      cases s
      · exact congrArg (fun o : Ordering => (some o.swap : Option Ordering) == some .eq) same
      · exact congrArg (fun o : Ordering => (some o : Option Ordering) == some .eq) same

end Parts

section Doubles

open Float.Model Float.Model.UnpackedFloat

theorem unpack_zero_add_sub_zero (x : Float) :
    (0.0 + x - 0.0).toModel.unpack = positiveZero x.toModel.unpack := by
  have canonical := (canonical_unpack x.toModel).positiveZero
  change (pack (UnpackedFloat.sub Format.binary64
    (pack (UnpackedFloat.add Format.binary64 (.zero .positive) x.toModel.unpack)).unpack
    (.zero .positive))).unpack = _
  rw [zero_add_eq, unpack_pack_of_canonical canonical, positiveZero_sub_zero,
    unpack_pack_of_canonical canonical]

theorem isNaN_zero_add_sub_zero (x : Float) : (0.0 + x - 0.0).isNaN = x.isNaN := by
  change (0.0 + x - 0.0).toModel.unpack.isNaN = x.toModel.unpack.isNaN
  rw [unpack_zero_add_sub_zero, isNaN_positiveZero]

theorem zero_add_sub_zero_beq (x : Float) : (0.0 + x - 0.0 == x) = !x.isNaN := by
  change (0.0 + x - 0.0).toModel.unpack.beq x.toModel.unpack = !x.toModel.unpack.isNaN
  rw [unpack_zero_add_sub_zero, positiveZero_beq]

end Doubles

end Reservoir.Number
