import Reservoir.Proofs.Concatenation
import Reservoir.Proofs.Datum.Filled
import Reservoir.Proofs.State.Seed

/-!
# The first rates of a well

A well that is initialized has a first rate for each phase, whatever its controls are and however
the shares of a surface rate were given.
-/

namespace Reservoir

namespace Seed

variable {settings : Settings} {phases : Nat} {pressure : List Float} {w : Well}

theorem length_givenRates {target : Choice Float} {shares : Datum} {rates : List Float}
    (h : givenRates phases target shares = .ok rates) : rates.length = phases := by
  obtain ⟨b, product, h⟩ := bind_eq_ok_iff.mp h
  exact Block.length_of_spreadOver (Datum.filled_of_product (mapError_eq_ok_iff.mp product))
    (mapError_eq_ok_iff.mp h)

theorem length_surfaceRates {c : Control} {rates : List Float}
    (h : surfaceRates phases w c = .ok rates) : rates.length = phases := by
  unfold surfaceRates at h
  split at h
  · cases h
  · next values _ =>
    split at h
    · next count =>
      split at h
      · cases h
        rw [List.length_map, count]
      · exact length_givenRates h
    · cases h
  · obtain ⟨n, _, h⟩ := bind_eq_ok_iff.mp h
    split at h
    · exact length_givenRates h
    · cases h

/-- A seed made from the ambient pressure has the rates that are given. -/
theorem rates_of_ambient {s : Seed} {f : Float → Seed} {rates : List Float}
    (same : ∀ p, (f p).rates = rates)
    (h : (do
      let p ← (ambientPressure pressure w).mapError .well
      pure (f p) : Except Fault Seed) = .ok s) : s.rates = rates := by
  obtain ⟨p, _, h⟩ := bind_eq_ok_iff.mp h
  cases h
  exact same p

theorem rates_of_stopped {s : Seed} (h : stopped settings phases pressure w = .ok s) :
    s.rates = List.replicate phases 0.0 := by
  obtain ⟨active, _, h⟩ := bind_eq_ok_iff.mp h
  split at h
  · exact rates_of_ambient (fun _ => rfl) h
  · split at h
    · obtain ⟨p, _, h⟩ := bind_eq_ok_iff.mp h
      cases h
      rfl
    · obtain ⟨p, _, h⟩ := bind_eq_ok_iff.mp h
      cases h
      rfl
    · exact rates_of_ambient (fun _ => rfl) h
    · exact rates_of_ambient (fun _ => rfl) h
    · exact rates_of_ambient (fun _ => rfl) h
    · cases h

/-- An open well has the rates of its surface rate control, or small ones with the sign of its
role. -/
theorem rates_of_flowing {role : Role} {s : Seed}
    (h : flowing settings phases pressure w role = .ok s) :
    (w.activeKind? = some .surfaceRate ∧ ∃ c, surfaceRates phases w c = .ok s.rates) ∨
      s.rates = List.replicate phases (role.sign * settings.smallRate) := by
  obtain ⟨active, found, h⟩ := bind_eq_ok_iff.mp h
  extract_lets small rest at h
  -- Nothing that is done after the rates have been found changes them.
  have kept : ∀ rates, rest rates = .ok s → s.rates = rates := by
    intro rates h
    obtain ⟨⟨bhp, thp⟩, _, h⟩ := bind_eq_ok_iff.mp h
    simp only at h
    split at h
    · exact rates_of_ambient (fun _ => rfl) h
    · split at h
      · split at h
        · cases h
          rfl
        · exact rates_of_ambient (fun _ => rfl) h
      · exact rates_of_ambient (fun _ => rfl) h
      · cases h
  split at h
  · next c =>
    split at h
    · next kind =>
      obtain ⟨rates, given, h⟩ := bind_eq_ok_iff.mp h
      refine .inl ⟨?_, c, (kept rates h).symm ▸ given⟩
      rw [Well.activeKind?_of_some found, kind]
      rfl
    · exact .inr (kept small h)
  · exact .inr (kept small h)

theorem length_rates_of_flowing {role : Role} {s : Seed}
    (h : flowing settings phases pressure w role = .ok s) : s.rates.length = phases := by
  rcases rates_of_flowing h with ⟨_, _, given⟩ | small
  · exact length_surfaceRates given
  · rw [small, List.length_replicate]

/-- A well has a first rate for each phase. -/
theorem length_rates {s : Seed} (h : ofWell settings phases pressure w = .ok s) :
    s.rates.length = phases := by
  obtain ⟨role, _, h⟩ := bind_eq_ok_iff.mp h
  split at h
  · rw [rates_of_stopped h, List.length_replicate]
  · exact length_rates_of_flowing h

end Seed

end Reservoir
