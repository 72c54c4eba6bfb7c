import Reservoir.Proofs.Control.Trace
import Reservoir.Proofs.Datum.Nested
import Reservoir.Proofs.Number.BlockSum
import Reservoir.Proofs.Number.Classes

/-!
# Proper distributions, and what else is accepted

A proper distribution has a share for each phase, no share below zero and about one in all. The
tests of a distribution ask whether something is wrong, and no comparison with a NaN holds, so
that they find nothing wrong with a NaN either: neither where it stands nor in the total, which
it makes a NaN. `distributes_iff` says that these two are all that is accepted.
-/

namespace Reservoir

/-- Shares that distribute a target over the phases. -/
structure Proper (phases : Option Int) (shares : List Float) : Prop where
  ne_nil : shares ≠ []
  counted : ∀ p ∈ phases, (shares.length : Int) = p
  nonneg : ∀ x ∈ shares, 0.0 ≤ x
  total : (Number.total shares - 1.0).abs ≤ sumTolerance

/-- Shares that distribute nothing, as one of them is a NaN, while the others are not below
zero. -/
structure Indefinite (phases : Option Int) (shares : List Float) : Prop where
  counted : ∀ p ∈ phases, (shares.length : Int) = p
  undefined : ∃ x ∈ shares, x.isNaN = true
  nonneg : ∀ x ∈ shares, x.isNaN = true ∨ 0.0 ≤ x

variable {phases : Option Int} {shares : List Float}

/-- A proper distribution holds no NaN. -/
theorem Proper.isNaN_eq_false (h : Proper phases shares) : ∀ x ∈ shares, x.isNaN = false :=
  fun x hx => Number.isNaN_of_zero_le (h.nonneg x hx)

/-- Shares that make up about one are finite: a sum with an infinity in it stays away from one. -/
theorem Proper.isFinite (h : Proper phases shares) : ∀ x ∈ shares, x.isFinite = true := by
  have near : (Number.total shares - 1.0).isFinite = true :=
    Number.isFinite_of_abs_le h.total rfl
  intro x hx
  by_contra infinite
  have sum : (Number.total shares).isFinite = false :=
    (Number.isSum_total shares).of_mem (P := fun y => y.isFinite = false)
      (fun _ y holds => Number.isFinite_add_of_left holds y)
      (fun y _ holds => Number.isFinite_add_of_right holds y)
      ⟨x, hx, Bool.eq_false_iff.mpr infinite⟩
  rw [Number.isFinite_sub_of_left sum] at near
  cases near

/-- A sum with a NaN in it is a NaN. -/
theorem isNaN_total (h : ∃ x ∈ shares, x.isNaN = true) : (Number.total shares).isNaN = true :=
  (Number.isSum_total shares).of_mem (P := fun y => y.isNaN = true)
    (fun _ y holds => Number.isNaN_add_of_left holds y)
    (fun y _ holds => Number.isNaN_add_of_right holds y) h

/-- A sum of what is not below zero is not below zero. -/
theorem zero_le_total (h : ∀ x ∈ shares, 0.0 ≤ x) : 0.0 ≤ Number.total shares :=
  (Number.isSum_total shares).of_forall (P := fun y => 0.0 ≤ y) (by decide) (by decide)
    (fun _ _ => Number.zero_le_add) h

theorem isNaN_distance (x : Float) : (x - 1.0).abs.isNaN = x.isNaN := by
  rw [Number.isNaN_abs, Number.isNaN_sub_of_isFinite x rfl]

theorem miscounted_member_eq_false_iff {entries : Nat} :
    (∀ p ∈ phases.map Choice.member, miscounted entries p = false) ↔
      ∀ p ∈ phases, (entries : Int) = p := by
  cases phases with
  | none => simp
  | some p => simp [miscounted]

/-- Without a NaN among the shares, the test of the total finds what is wrong with it. -/
theorem not_sumTolerance_lt_iff (h : ∀ x ∈ shares, 0.0 ≤ x) :
    ¬sumTolerance < (Number.total shares - 1.0).abs ↔
      (Number.total shares - 1.0).abs ≤ sumTolerance := by
  have number : (Number.total shares - 1.0).abs.isNaN = false := by
    rw [isNaN_distance]
    exact Number.isNaN_of_zero_le (zero_le_total h)
  exact Number.not_lt_iff_le number rfl

/-- The test of a share lets the shares pass that are not below zero, and NaNs. -/
theorem not_lt_zero_iff (x : Float) : ¬x < 0.0 ↔ x.isNaN = true ∨ 0.0 ≤ x := by
  cases hn : x.isNaN with
  | true => exact iff_of_true (Number.not_isNaN_lt hn 0.0) (.inl rfl)
  | false =>
      rw [Number.not_lt_iff_le rfl hn]
      exact ⟨.inr, fun either => either.resolve_left nofun⟩

theorem Proper.distributes (h : Proper phases shares) :
    Distributes (phases.map .member) shares :=
  ⟨h.ne_nil, miscounted_member_eq_false_iff.mpr h.counted,
    fun x hx => (not_lt_zero_iff x).mpr (.inr (h.nonneg x hx)),
    (not_sumTolerance_lt_iff h.nonneg).mpr h.total⟩

theorem Indefinite.distributes (h : Indefinite phases shares) :
    Distributes (phases.map .member) shares := by
  obtain ⟨x, hx, _⟩ := h.undefined
  refine ⟨List.ne_nil_of_mem hx, miscounted_member_eq_false_iff.mpr h.counted,
    fun y hy => (not_lt_zero_iff y).mpr (h.nonneg y hy), ?_⟩
  apply Number.not_lt_of_isNaN
  rw [isNaN_distance]
  exact isNaN_total h.undefined

/-- The tests of a distribution find nothing wrong with proper distributions and with those of
which a share is a NaN. -/
theorem distributes_iff :
    Distributes (phases.map .member) shares ↔ Proper phases shares ∨ Indefinite phases shares := by
  constructor
  · rintro ⟨ne_nil, counted, nonneg, near⟩
    rw [miscounted_member_eq_false_iff] at counted
    have each : ∀ x ∈ shares, x.isNaN = true ∨ 0.0 ≤ x :=
      fun x hx => (not_lt_zero_iff x).mp (nonneg x hx)
    by_cases undefined : ∃ x ∈ shares, x.isNaN = true
    · exact .inr ⟨counted, undefined, each⟩
    · have positive : ∀ x ∈ shares, 0.0 ≤ x :=
        fun x hx => (each x hx).resolve_left fun h => undefined ⟨x, hx, h⟩
      exact .inl ⟨ne_nil, counted, positive, (not_sumTolerance_lt_iff positive).mp near⟩
  · rintro (proper | indefinite)
    · exact proper.distributes
    · exact indefinite.distributes

theorem Block.ofShape_eq_flat_iff {α : Type} {shape : List Nat} {xs ys : List α} :
    Block.ofShape shape xs = .flat ys ↔ shape.length = 1 ∧ ys = xs := by
  rw [Block.ofShape.eq_def]
  split
  · simp [eq_comm]
  · next several =>
    refine iff_of_false nofun ?_
    rintro ⟨single, _⟩
    obtain ⟨n, rfl⟩ := List.length_eq_one_iff.mp single
    exact several n rfl

variable {kind : ControlKind} {target : Float} {shape : List Nat}

theorem nest_ne_null (shape : List Nat) (xs : List Float) : Datum.nest shape xs ≠ .null := by
  cases shape <;> nofun

/-- Nested entries are a distribution only as a plain list. -/
theorem readDistribution_nest_iff {given : Option (Choice Int)} {values : List Float}
    (length : shares.length = volume shape) :
    readDistribution given (.nest shape shares) = .ok values ↔
      shape.length = 1 ∧ Distributes given shares ∧ values = shares := by
  have seen : shares ≠ [] → Datum.seenShape shape = shape := by
    intro some
    apply Datum.seenShape_of_volume_ne_zero
    rw [← length]
    exact fun none => some (List.length_eq_zero_iff.mp none)
  rw [readDistribution_eq_ok_iff]
  constructor
  · rintro ⟨block, accepted⟩
    rcases Nat.lt_or_ge Datum.depthLimit (Datum.seenShape shape).length with deep | shallow
    · rw [Datum.block_nest_of_deep deep] at block
      cases block
    · rw [Datum.block_nest length shallow, Except.ok.injEq, Block.ofShape_eq_flat_iff] at block
      obtain ⟨single, rfl⟩ := block
      rw [seen accepted.ne_nil] at single
      exact ⟨single, accepted, rfl⟩
  · rintro ⟨single, accepted, rfl⟩
    have same := seen accepted.ne_nil
    refine ⟨?_, accepted⟩
    rw [Datum.block_nest length (by rw [same, single]; decide), same,
      Block.ofShape_eq_flat_iff.mpr ⟨single, rfl⟩]

namespace ControlStack

/-- A distribution is all that can be wrong with a kind, a double and a distribution. -/
theorem readControl_of_ne_null {given : Option (Choice Int)} {distribution : Datum}
    (ne : distribution ≠ .null) :
    readControl given (.member kind) (.float target) distribution =
      (readDistribution given distribution).map fun values =>
        ⟨.member kind, .member target, some (.member values)⟩ := by
  simp only [readControl]
  cases readDistribution given distribution <;> rfl

end ControlStack

end Reservoir
