import Reservoir.Proofs.Number.Exact

/-!
# NaNs, infinities and signs

What class a double belongs to after an operation follows from the classes of the operands. A
NaN stays one, nothing finite comes from an infinity, and neither addition of what is not
negative nor multiplication of what is finite makes a NaN. Two doubles that are no NaNs are
comparable, and a comparison with a NaN never holds.

Packing may round a finite double to zero or raise it to an infinity, but its sign is kept and
it becomes no NaN.
-/

namespace Reservoir.Number

section Parts

open Float.Model Float.Model.UnpackedFloat

variable {u v : UnpackedFloat}

/-- Zero or positive; the sign of a zero does not count. -/
def NonNeg : UnpackedFloat → Prop
  | .zero _ => True
  | .finite s _ _ _ => s = .positive
  | .infinity s => s = .positive
  | .notANumber => False

theorem Upright.nonNeg (h : Upright u) : NonNeg u := by
  cases u with
  | zero => exact trivial
  | infinity | finite | notANumber => exact h

theorem NonNeg.isNaN_eq_false (h : NonNeg u) : u.isNaN = false := by
  cases u with
  | notANumber => exact h.elim
  | zero | infinity | finite => rfl

theorem isNaN_eq_false_of_isFinite (h : u.isFinite = true) : u.isNaN = false := by
  cases u with
  | notANumber => cases h
  | zero | infinity | finite => rfl

theorem nonNeg_unpack_pack (h : NonNeg u) : NonNeg (pack u).unpack := by
  cases u with
  | zero s => cases s <;> exact trivial
  | notANumber => exact h.elim
  | infinity s | finite s =>
      cases h
      refine (upright_unpack_pack ?_).nonNeg
      rfl

/-- Only the last exponent field is that of a NaN. -/
theorem isNaN_unpack_packComponents {field : BitVec 11} (finite : field ≠ -1#11) (s : Sign)
    (m : BitVec 52) :
    (UnpackedFloat.unpack Format.binary64 (packComponents Format.binary64 s field m)).isNaN =
      false := by
  simp only [UnpackedFloat.unpack, unpackExponent_packComponents, unpackMantissa_packComponents,
    if_neg finite]
  split
  · split <;> rfl
  · rfl

/-- Packing neither makes nor loses a NaN. -/
theorem isNaN_unpack_pack (u : UnpackedFloat) : (pack u).unpack.isNaN = u.isNaN := by
  cases u with
  | zero s | infinity s => cases s <;> rfl
  | notANumber => rfl
  | finite s m e hm =>
      simp only [Float.Model.unpack, Float.Model.pack, UnpackedFloat.pack]
      split
      · cases s <;> rfl
      · next small =>
        split
        · refine isNaN_unpack_packComponents ?_ _ _
          intro same
          have value := congrArg BitVec.toNat same
          rw [BitVec.toNat_ofNat] at value
          change _ % 2048 = 2047 at value
          change ¬2048 ≤ _ + 1 at small
          omega
        · exact isNaN_unpack_packComponents (by decide) _ _

/-- What is not finite is not made finite by packing. -/
theorem isFinite_unpack_pack (h : u.isFinite = false) : (pack u).unpack.isFinite = false := by
  cases u with
  | infinity s => cases s <;> rfl
  | notANumber => rfl
  | zero | finite => cases h

theorem isFinite_roundWithAccuracy (s : Sign) (m : Nat) (e : Int) (a : Accuracy) :
    (roundWithAccuracy Format.binary64 s m e a).isFinite = true := by
  simp only [roundWithAccuracy]
  split <;> rfl

theorem isFinite_normalize (n : Int) (e : Int) (s : Sign) :
    (UnpackedFloat.normalize Format.binary64 n e s).isFinite = true := by
  rw [UnpackedFloat.normalize]
  split
  · exact isFinite_roundWithAccuracy _ _ _ _
  · rfl
  · exact isFinite_roundWithAccuracy _ _ _ _

theorem nonNeg_normalize {n : Int} (h : 0 ≤ n) (e : Int) (s : Sign) :
    NonNeg (UnpackedFloat.normalize Format.binary64 n e s) := by
  rw [UnpackedFloat.normalize]
  split
  · next negative => exact absurd (Int.compare_eq_lt.mp negative) (Int.not_lt.mpr h)
  · exact trivial
  · exact (upright_roundWithAccuracy _ _ _).nonNeg

/-- Opposite infinities are what makes a NaN of a sum. -/
theorem NonNeg.add (hu : NonNeg u) (hv : NonNeg v) :
    NonNeg (UnpackedFloat.add Format.binary64 u v) := by
  cases u with
  | notANumber => exact hu.elim
  | zero s =>
      cases v with
      | notANumber => exact hv.elim
      | infinity | finite => exact hv
      | zero t => cases s <;> cases t <;> exact trivial
  | infinity s =>
      cases hu
      cases v with
      | notANumber => exact hv.elim
      | infinity t =>
          cases hv
          rfl
      | zero | finite => rfl
  | finite s m e hm =>
      cases hu
      cases v with
      | notANumber => exact hv.elim
      | infinity t => exact hv
      | zero t => rfl
      | finite t n f hn =>
          cases hv
          exact nonNeg_normalize (Int.add_nonneg (Int.natCast_nonneg _) (Int.natCast_nonneg _)) _ _

theorem isNaN_add_left (h : u.isNaN = true) (v : UnpackedFloat) :
    (UnpackedFloat.add Format.binary64 u v).isNaN = true := by
  cases u with
  | notANumber => rfl
  | zero | infinity | finite => cases h

theorem isNaN_add_right (h : v.isNaN = true) (u : UnpackedFloat) :
    (UnpackedFloat.add Format.binary64 u v).isNaN = true := by
  cases v with
  | notANumber => cases u <;> rfl
  | zero | infinity | finite => cases h

theorem isFinite_add_left (h : u.isFinite = false) (v : UnpackedFloat) :
    (UnpackedFloat.add Format.binary64 u v).isFinite = false := by
  cases u with
  | notANumber => rfl
  | infinity s =>
      cases v with
      | infinity t => cases s <;> cases t <;> rfl
      | notANumber | zero | finite => rfl
  | zero | finite => cases h

theorem isFinite_add_right (h : v.isFinite = false) (u : UnpackedFloat) :
    (UnpackedFloat.add Format.binary64 u v).isFinite = false := by
  cases v with
  | notANumber => cases u <;> rfl
  | infinity s =>
      cases u with
      | infinity t => cases s <;> cases t <;> rfl
      | notANumber | zero | finite => rfl
  | zero | finite => cases h

/-- A difference from something finite is a NaN only if the minuend was. -/
theorem isNaN_sub (u : UnpackedFloat) (h : v.isFinite = true) :
    (UnpackedFloat.sub Format.binary64 u v).isNaN = u.isNaN := by
  cases v with
  | notANumber | infinity => cases h
  | zero t =>
      cases u with
      | zero s => cases s <;> cases t <;> rfl
      | notANumber | infinity | finite => rfl
  | finite t n f hn =>
      cases u with
      | finite s m e hm => exact isNaN_eq_false_of_isFinite (isFinite_normalize _ _ _)
      | notANumber | infinity | zero => rfl

theorem isFinite_sub (h : u.isFinite = false) (v : UnpackedFloat) :
    (UnpackedFloat.sub Format.binary64 u v).isFinite = false := by
  cases u with
  | notANumber => rfl
  | infinity s =>
      cases v with
      | infinity t => cases s <;> cases t <;> rfl
      | notANumber | zero | finite => rfl
  | zero | finite => cases h

/-- A quotient by something finite and not zero is a NaN only if the dividend was. -/
theorem isNaN_div (u : UnpackedFloat) (s : Sign) {m : Nat} (e : Int) (hm : 0 < m) :
    (UnpackedFloat.div Format.binary64 u (.finite s m e hm)).isNaN = u.isNaN := by
  cases u with
  | notANumber | zero | infinity => rfl
  | finite => exact isNaN_eq_false_of_isFinite (isFinite_roundWithAccuracy _ _ _ _)

/-- The two orders of the same pair are opposite. -/
theorem compare_swap (u v : UnpackedFloat) :
    UnpackedFloat.compare v u = (UnpackedFloat.compare u v).map Ordering.swap := by
  have signs : ∀ s t : Sign, compare t s = (compare s t).swap := by
    intro s t
    cases s <;> cases t <;> rfl
  have parts : ∀ (m n : Nat) (e f : Int),
      (compare f e).then (compare n m) = ((compare e f).then (compare m n)).swap := by
    intro m n e f
    rw [Ordering.swap_then, Int.compare_swap, Nat.compare_swap]
  cases u with
  | notANumber => cases v <;> rfl
  | zero s =>
      cases v with
      | notANumber | zero => rfl
      | infinity t | finite t => cases t <;> rfl
  | infinity s =>
      cases v with
      | notANumber => cases s <;> rfl
      | zero => cases s <;> rfl
      | infinity t => exact congrArg some (signs s t)
      | finite t => cases s <;> cases t <;> rfl
  | finite s m e hm =>
      cases v with
      | notANumber => cases s <;> rfl
      | zero => cases s <;> rfl
      | infinity t => cases s <;> cases t <;> rfl
      | finite t n f hn =>
          cases s <;> cases t
          · exact congrArg some (congrArg Ordering.swap (parts m n e f))
          · rfl
          · rfl
          · exact congrArg some (parts m n e f)

/-- Doubles that are no NaNs are comparable. -/
theorem exists_compare_eq_some (hu : u.isNaN = false) (hv : v.isNaN = false) :
    ∃ o, UnpackedFloat.compare u v = some o := by
  cases u with
  | notANumber => cases hu
  | zero s =>
      cases v with
      | notANumber => cases hv
      | zero => exact ⟨_, rfl⟩
      | infinity t | finite t => cases t <;> exact ⟨_, rfl⟩
  | infinity s =>
      cases v with
      | notANumber => cases hv
      | infinity => exact ⟨_, rfl⟩
      | zero | finite => cases s <;> exact ⟨_, rfl⟩
  | finite s =>
      cases v with
      | notANumber => cases hv
      | zero => cases s <;> exact ⟨_, rfl⟩
      | infinity t | finite t => cases s <;> cases t <;> exact ⟨_, rfl⟩

theorem le_eq_not_lt (hu : u.isNaN = false) (hv : v.isNaN = false) :
    u.le v = !v.lt u := by
  obtain ⟨o, compared⟩ := exists_compare_eq_some hu hv
  rw [UnpackedFloat.le, UnpackedFloat.lt, compare_swap u v, compared]
  cases o <;> rfl

end Parts

section Doubles

open Float.Model Float.Model.UnpackedFloat

variable {x y : Float}

theorem isNaN_add_of_left (h : x.isNaN = true) (y : Float) : (x + y).isNaN = true :=
  (isNaN_unpack_pack _).trans (isNaN_add_left h _)

theorem isNaN_add_of_right (h : y.isNaN = true) (x : Float) : (x + y).isNaN = true :=
  (isNaN_unpack_pack _).trans (isNaN_add_right h _)

theorem isFinite_add_of_left (h : x.isFinite = false) (y : Float) : (x + y).isFinite = false :=
  isFinite_unpack_pack (isFinite_add_left h _)

theorem isFinite_add_of_right (h : y.isFinite = false) (x : Float) : (x + y).isFinite = false :=
  isFinite_unpack_pack (isFinite_add_right h _)

theorem isNaN_sub_of_isFinite (x : Float) (h : y.isFinite = true) : (x - y).isNaN = x.isNaN :=
  (isNaN_unpack_pack _).trans (isNaN_sub _ h)

theorem isFinite_sub_of_left (h : x.isFinite = false) (y : Float) : (x - y).isFinite = false :=
  isFinite_unpack_pack (isFinite_sub h _)

theorem isNaN_div_of_unpack {s : Sign} {m : Nat} {e : Int} {hm : 0 < m} (x : Float)
    (h : y.toModel.unpack = .finite s m e hm) : (x / y).isNaN = x.isNaN := by
  refine (isNaN_unpack_pack _).trans ?_
  rw [h]
  exact isNaN_div _ s e hm

theorem isNaN_abs (x : Float) : x.abs.isNaN = x.isNaN := by
  refine (isNaN_unpack_pack _).trans ?_
  change x.toModel.unpack.abs.isNaN = x.toModel.unpack.isNaN
  cases x.toModel.unpack <;> rfl

theorem lt_iff : x < y ↔ x.toModel.unpack.lt y.toModel.unpack = true :=
  decide_eq_true_iff

theorem le_iff : x ≤ y ↔ x.toModel.unpack.le y.toModel.unpack = true :=
  decide_eq_true_iff

/-- Nothing is below a NaN. -/
theorem not_lt_of_isNaN (h : y.isNaN = true) (x : Float) : ¬x < y := by
  rw [lt_iff, UnpackedFloat.lt]
  change y.toModel.unpack.isNaN = true at h
  cases parts : y.toModel.unpack with
  | notANumber => cases x.toModel.unpack <;> nofun
  | zero | infinity | finite =>
      rw [parts] at h
      cases h

/-- A NaN is below nothing. -/
theorem not_isNaN_lt (h : x.isNaN = true) (y : Float) : ¬x < y := by
  rw [lt_iff, UnpackedFloat.lt]
  change x.toModel.unpack.isNaN = true at h
  cases parts : x.toModel.unpack with
  | notANumber => nofun
  | zero | infinity | finite =>
      rw [parts] at h
      cases h

theorem not_lt_iff_le (hx : x.isNaN = false) (hy : y.isNaN = false) : ¬y < x ↔ x ≤ y := by
  rw [lt_iff, le_iff, le_eq_not_lt hx hy]
  simp

theorem zero_le_iff : 0.0 ≤ x ↔ NonNeg x.toModel.unpack := by
  rw [le_iff]
  change UnpackedFloat.le (.zero .positive) x.toModel.unpack = true ↔ _
  cases x.toModel.unpack with
  | notANumber => exact iff_of_false nofun id
  | zero => exact iff_of_true rfl trivial
  | infinity s | finite s =>
      cases s
      · exact iff_of_false nofun nofun
      · exact iff_of_true rfl rfl

theorem isNaN_of_zero_le (h : 0.0 ≤ x) : x.isNaN = false :=
  (zero_le_iff.mp h).isNaN_eq_false

theorem zero_le_add (hx : 0.0 ≤ x) (hy : 0.0 ≤ y) : 0.0 ≤ x + y :=
  zero_le_iff.mpr (nonNeg_unpack_pack ((zero_le_iff.mp hx).add (zero_le_iff.mp hy)))

/-- What is bounded on both sides by something finite is finite. -/
theorem isFinite_of_abs_le (h : x.abs ≤ y) (hy : y.isFinite = true) : x.isFinite = true := by
  rw [le_iff] at h
  change y.toModel.unpack.isFinite = true at hy
  change x.toModel.unpack.isFinite = true
  change (pack x.toModel.unpack.abs).unpack.le _ = true at h
  cases right : y.toModel.unpack with
  | notANumber | infinity =>
      rw [right] at hy
      cases hy
  | zero | finite =>
      cases left : x.toModel.unpack with
      | zero | finite => rfl
      | notANumber =>
          rw [left] at h
          cases h
      | infinity s =>
          have packed : (pack (.infinity .positive)).unpack = .infinity .positive := rfl
          rw [left, right, UnpackedFloat.abs, packed] at h
          cases h

end Doubles

end Reservoir.Number
