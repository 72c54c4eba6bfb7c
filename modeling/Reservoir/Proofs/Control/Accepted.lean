import Reservoir.Control.Stack
import Reservoir.Proofs.Traverse

/-!
# Which controls are accepted

A control that is given is accepted exactly when its kind is a kind, its target is a number, and
its distribution is a plain list of shares that distributes the phases. Only a surface rate needs
a distribution.
-/

namespace Reservoir

/-- Shares that are accepted: one for each phase, none below zero, and about one in all. -/
structure Distributes (phases : Option (Choice Int)) (shares : List Float) : Prop where
  ne_nil : shares ≠ []
  counted : ∀ p ∈ phases, miscounted shares.length p = false
  nonneg : ∀ x ∈ shares, ¬x < 0.0
  total : ¬(Number.total shares - 1.0).abs > sumTolerance

theorem checkShares_eq_ok_iff {phases : Option (Choice Int)} {shares values : List Float}
    (ne_nil : shares ≠ []) :
    checkShares phases shares = .ok values ↔ values = shares ∧ Distributes phases shares := by
  rw [checkShares]
  split
  · next p wrong =>
    obtain ⟨given, miscount⟩ := Option.filter_eq_some_iff.mp wrong
    refine iff_of_false nofun fun ⟨_, accepted⟩ => ?_
    simp [accepted.counted p given] at miscount
  · next counted =>
    have counted : ∀ p ∈ phases, miscounted shares.length p = false := by
      simpa [Option.filter_eq_none_iff] using counted
    split
    · next negative =>
      refine iff_of_false nofun fun ⟨_, accepted⟩ => ?_
      obtain ⟨x, member, below⟩ := List.any_eq_true.mp negative
      exact accepted.nonneg x member (of_decide_eq_true below)
    · next negative =>
      have nonneg : ∀ x ∈ shares, ¬x < 0.0 := by simpa using negative
      split
      · next off => exact iff_of_false nofun fun ⟨_, accepted⟩ => accepted.total off
      · next total =>
        constructor
        · rintro ⟨⟩
          exact ⟨rfl, ne_nil, counted, nonneg, total⟩
        · rintro ⟨rfl, _⟩
          rfl

/-- A distribution is accepted as a plain list of shares. -/
theorem readDistribution_eq_ok_iff {phases : Option (Choice Int)} {given : Datum}
    {shares : List Float} :
    readDistribution phases given = .ok shares ↔
      given.block = .ok (.flat shares) ∧ Distributes phases shares := by
  rw [readDistribution]
  cases given.block with
  | error e => exact iff_of_false nofun nofun
  | ok b =>
      cases b with
      | shaped s xs => exact iff_of_false nofun nofun
      | flat xs =>
          cases xs with
          | nil =>
              refine iff_of_false nofun ?_
              rintro ⟨⟨⟩, accepted⟩
              exact accepted.ne_nil rfl
          | cons x xs =>
              change (checkShares phases (x :: xs)).mapError Fault.control = .ok shares ↔ _
              rw [mapError_eq_ok_iff, checkShares_eq_ok_iff (List.cons_ne_nil x xs)]
              constructor
              · rintro ⟨rfl, accepted⟩
                exact ⟨rfl, accepted⟩
              · rintro ⟨block, accepted⟩
                cases block
                exact ⟨rfl, accepted⟩

/-- The shares of an added control: those that were given, and none only if none are needed. -/
inductive SharesGiven (phases : Option (Choice Int)) (k : ControlKind) :
    Datum → Option (List Float) → Prop
  | none (needless : k ≠ .surfaceRate) : SharesGiven phases k .null none
  | some {given : Datum} {shares : List Float} (block : given.block = .ok (.flat shares))
      (accepted : Distributes phases shares) : SharesGiven phases k given (some shares)

/-- A control is accepted for its kind, then its shares, then its target. -/
theorem readControl_eq_ok_iff {phases : Option (Choice Int)} {kind : Choice ControlKind}
    {target distribution : Datum} {c : Control} :
    ControlStack.readControl phases kind target distribution = .ok c ↔
      ∃ k shares t, kind = .member k ∧ SharesGiven phases k distribution shares ∧
        target.scalar = .ok t ∧ c = ⟨.member k, .member t, shares.map .member⟩ := by
  unfold ControlStack.readControl
  cases kind with
  | other given => exact iff_of_false nofun (by rintro ⟨_, _, _, ⟨⟩, _⟩)
  | member k =>
      simp only
      split
      · split
        · next needed =>
          refine iff_of_false nofun ?_
          rintro ⟨_, _, _, ⟨⟩, given, _⟩
          cases given with
          | none needless => exact needless needed
          | some block => cases block
        · next needless =>
          constructor
          · intro h
            obtain ⟨shares, made, h⟩ := bind_eq_ok_iff.mp h
            obtain ⟨t, read, h⟩ := bind_eq_ok_iff.mp h
            cases made
            cases h
            exact ⟨k, none, t, rfl, .none needless, mapError_eq_ok_iff.mp read, rfl⟩
          · rintro ⟨_, _, t, ⟨⟩, given, read, rfl⟩
            cases given with
            | none =>
                change (target.scalar.mapError Fault.input).bind _ = _
                rw [read]
                rfl
            | some block => cases block
      · next given =>
        constructor
        · intro h
          obtain ⟨values, read, h⟩ := bind_eq_ok_iff.mp h
          obtain ⟨shares, made, h⟩ := bind_eq_ok_iff.mp h
          obtain ⟨t, number, h⟩ := bind_eq_ok_iff.mp h
          cases made
          cases h
          obtain ⟨block, accepted⟩ := readDistribution_eq_ok_iff.mp read
          exact ⟨k, some values, t, rfl, .some block accepted, mapError_eq_ok_iff.mp number, rfl⟩
        · rintro ⟨_, _, t, ⟨⟩, shares, read, rfl⟩
          cases shares with
          | none => exact absurd rfl given
          | some block accepted =>
              rw [readDistribution_eq_ok_iff.mpr ⟨block, accepted⟩, read]
              rfl

end Reservoir
