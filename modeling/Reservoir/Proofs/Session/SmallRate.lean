import Reservoir.Proofs.Number.Sign
import Reservoir.Proofs.Session.Shown

/-!
# Small rates that carry the sign of a role

An open well that is not under a surface rate starts with a small rate for each phase, which is
above zero for an injector and below zero for a producer. The small rate has to be above zero for
that. Settings are refused for a small rate that is at most zero, which a NaN is not: under such
settings every small rate is a NaN and has no sign.
-/

namespace Reservoir

/-- A rate that stands for the sign of a role, made from a small rate. -/
structure Role.Signs (role : Role) (small rate : Float) : Prop where
  isNaN_eq : rate.isNaN = small.isNaN
  injector : small.isNaN = false → role = .injector → 0.0 < rate
  producer : small.isNaN = false → role = .producer → rate < 0.0

theorem Role.signs_sign_mul (role : Role) {small : Float}
    (accepted : 0.0 < small ∨ small.isNaN = true) : role.Signs small (role.sign * small) := by
  have positive (number : small.isNaN = false) : 0.0 < small :=
    accepted.resolve_right (by rw [number]; exact Bool.false_ne_true)
  constructor
  · cases role with
    | injector => exact Number.isNaN_mul_of_unit (s := .positive) rfl small
    | producer => exact Number.isNaN_mul_of_unit (s := .negative) rfl small
  · rintro number rfl
    exact Number.zero_lt_one_mul (positive number)
  · rintro number rfl
    exact Number.neg_one_mul_lt_zero (positive number)

/-- An open well under no surface rate has the same small rate for all phases. -/
theorem Seed.rates_of_open {settings : Settings} {phases : Nat} {pressure : List Float} {w : Well}
    {s : Seed} (h : ofWell settings phases pressure w = .ok s)
    (flows : w.stack.stopped = false) (other : w.activeKind? ≠ some .surfaceRate) :
    ∃ role, w.role = .member role ∧
      s.rates = List.replicate phases (role.sign * settings.smallRate) := by
  obtain ⟨role, required, h⟩ := bind_eq_ok_iff.mp h
  rw [if_neg (by rw [flows]; exact Bool.false_ne_true)] at h
  refine ⟨role, ?_, (rates_of_flowing h).resolve_left fun given => other given.1⟩
  have required := mapError_eq_ok_iff.mp required
  rw [Well.requireRole] at required
  split at required
  · next member =>
    cases required
    exact member
  · cases required

namespace WellState

/-- The rates of all open wells that are not under a surface rate carry the signs of their
roles. -/
structure CarriesSigns (state : WellState) (ws : WellSet) (small : Float) : Prop where
  phases : readPhases ws.phases = .ok state.phases
  rates : ∀ (n : Nat) (w : Well), ws.wells[n]? = some w → w.stack.stopped = false →
    w.activeKind? ≠ some .surfaceRate → ∃ role, w.role = .member role ∧
      ∀ p < state.phases.toNat, ∃ rate,
        state.wellRates.entries[state.phases.toNat * n + p]? = some rate ∧
          role.Signs small rate

theorem carriesSigns_of_initial {settings : Settings} {ws : WellSet} {given : Datum}
    {state : WellState} (accepted : 0.0 < settings.smallRate ∨ settings.smallRate.isNaN = true)
    (h : (initial settings (some ws) given).outcome = .ok state) :
    state.CarriesSigns ws settings.smallRate := by
  obtain ⟨phases, pressure, seeds, read, _, _, made, rfl⟩ := exists_seeds_of_initial h
  refine ⟨read, fun n w well flows other => ?_⟩
  obtain ⟨seed, place, seeded⟩ := exists_getElem?_of_mapM made well
  obtain ⟨role, member, rates⟩ := Seed.rates_of_open seeded flows other
  refine ⟨role, member, fun p hp => ⟨_, ?_, role.signs_sign_mul accepted⟩⟩
  have width : ∀ s ∈ seeds, s.rates.length = phases.toNat := by
    intro s hs
    obtain ⟨v, _, seeded⟩ := exists_mem_of_mapM made hs
    exact Seed.length_rates seeded
  change (seeds.flatMap (·.rates))[phases.toNat * n + p]? = _
  rw [getElem?_flatMap_of_length width hp, place, Option.bind_some, rates]
  exact List.getElem?_replicate_of_lt hp

end WellState

namespace Settings

/-- Constants that are in range. Only the factor of a producer is tested on both sides, and so
not allowed to be a NaN. -/
structure Accepted (s : Settings) : Prop where
  smallRate : 0.0 < s.smallRate ∨ s.smallRate.isNaN = true
  injectorFactor : 1.0 < s.injectorFactor ∨ s.injectorFactor.isNaN = true
  producerFactor : 0.0 < s.producerFactor ∧ s.producerFactor < 1.0
  unsetPressure : s.unsetPressure < 0.0 ∨ s.unsetPressure.isNaN = true

/-- However the constants were given, those that have a range are in range. -/
theorem accepted_iff {s : Settings} (given : Constant → Datum) :
    s.Accepted ↔ ∀ c ∈ Constant.ranged, c.fault? (s.get c) (given c) = none := by
  have zero : (0.0 : Float).isNaN = false := rfl
  have one : (1.0 : Float).isNaN = false := rfl
  have small : Constant.smallRate.fault? s.smallRate (given .smallRate) = none ↔
      0.0 < s.smallRate ∨ s.smallRate.isNaN = true := by
    simp only [Constant.fault?, ite_eq_right_iff, reduceCtorEq, imp_false, Number.not_le_iff,
      zero, or_false]
  have injector : Constant.injectorFactor.fault? s.injectorFactor (given .injectorFactor) = none ↔
      1.0 < s.injectorFactor ∨ s.injectorFactor.isNaN = true := by
    simp only [Constant.fault?, ite_eq_right_iff, reduceCtorEq, imp_false, Number.not_le_iff,
      one, or_false]
  have producer : Constant.producerFactor.fault? s.producerFactor (given .producerFactor) = none ↔
      0.0 < s.producerFactor ∧ s.producerFactor < 1.0 := by
    simp only [Constant.fault?, ite_eq_left_iff, reduceCtorEq, imp_false, not_not]
  have unset : Constant.unsetPressure.fault? s.unsetPressure (given .unsetPressure) = none ↔
      s.unsetPressure < 0.0 ∨ s.unsetPressure.isNaN = true := by
    simp only [Constant.fault?, ite_eq_right_iff, reduceCtorEq, imp_false, ge_iff_le,
      Number.not_le_iff, zero, false_or]
  simp only [Constant.ranged, List.forall_mem_cons, List.not_mem_nil, false_implies, implies_true,
    and_true, get, small, injector, producer, unset]
  constructor
  · rintro ⟨smallRate, injectorFactor, producerFactor, unsetPressure⟩
    exact ⟨smallRate, injectorFactor, producerFactor, unsetPressure⟩
  · rintro ⟨smallRate, injectorFactor, producerFactor, unsetPressure⟩
    exact ⟨smallRate, injectorFactor, producerFactor, unsetPressure⟩

/-- The default constants are in range, and the small rate may be changed. -/
theorem accepted_of_smallRate {small : Float} (h : 0.0 < small ∨ small.isNaN = true) :
    ({ smallRate := small } : Settings).Accepted where
  smallRate := h
  injectorFactor := .inl (show 1.0 < (1.01 : Float) by decide +kernel)
  producerFactor :=
    ⟨show 0.0 < (0.99 : Float) by decide +kernel, show (0.99 : Float) < 1.0 by decide +kernel⟩
  unsetPressure := .inl (show -1e100 < (0.0 : Float) by decide +kernel)

end Settings

namespace GivenSettings

open Settings

variable {g : GivenSettings}

/-- Settings are made from numbers. -/
theorem number_of_settings {s : Settings} (h : g.settings = .ok s) (c : Constant) :
    g.number c = .ok (s.get c) := by
  obtain ⟨unsetPressure, unset, h⟩ := bind_eq_ok_iff.mp h
  obtain ⟨smallRate, small, h⟩ := bind_eq_ok_iff.mp h
  obtain ⟨injectorFactor, injector, h⟩ := bind_eq_ok_iff.mp h
  obtain ⟨producerFactor, producer, h⟩ := bind_eq_ok_iff.mp h
  obtain ⟨standardCelsius, standard, h⟩ := bind_eq_ok_iff.mp h
  cases h
  cases c <;> assumption

theorem checkConstant_of_none {s : Settings} (numbers : g.settings = .ok s) {c : Constant}
    (fine : c.fault? (s.get c) (g.constants c) = none) : g.checkConstant c = .ok () := by
  rw [checkConstant, number_of_settings numbers]
  simp only [Except.mapError, bind, Except.bind, fine]
  rfl

theorem checkConstant_of_some {s : Settings} (numbers : g.settings = .ok s) {c : Constant}
    {fault : SettingsFault} (found : c.fault? (s.get c) (g.constants c) = some fault) :
    g.checkConstant c = .error (.settings fault) := by
  rw [checkConstant, number_of_settings numbers]
  simp only [Except.mapError, bind, Except.bind, found]
  rfl

/-- Settings whose constants are numbers pass the check when they are in range. -/
theorem forM_checkConstant_eq_ok_iff {s : Settings} (numbers : g.settings = .ok s) :
    Constant.ranged.forM g.checkConstant = .ok () ↔ s.Accepted := by
  rw [accepted_iff fun c => (g.constants c).val, forM_eq_ok_iff]
  refine forall₂_congr fun c _ => ?_
  cases found : c.fault? (s.get c) (g.constants c) with
  | none => exact iff_of_true (checkConstant_of_none numbers found) rfl
  | some fault =>
      rw [checkConstant_of_some numbers found]
      exact iff_of_false nofun nofun

theorem exists_fault_of_not_accepted {s : Settings} (numbers : g.settings = .ok s)
    (refused : ¬s.Accepted) :
    ∃ fault, Constant.ranged.forM g.checkConstant = .error (.settings fault) := by
  rw [← forM_checkConstant_eq_ok_iff numbers] at refused
  cases checked : Constant.ranged.forM g.checkConstant with
  | ok => exact absurd checked refused
  | error e =>
      obtain ⟨c, _, failed⟩ := exists_mem_of_forM_eq_error checked
      cases found : c.fault? (s.get c) (g.constants c) with
      | none => cases (checkConstant_of_none numbers found).symm.trans failed
      | some fault =>
          cases (checkConstant_of_some numbers found).symm.trans failed
          exact ⟨fault, rfl⟩

end GivenSettings

namespace SettingsRequest

/-- All settings by name. -/
def values (s : Settings) : List (String × Setting) :=
  Settings.Constant.all.map (fun c : Settings.Constant => (c.name, .double (s.get c))) ++
    [(Settings.warningName, .flag s.warnOnZeroPressure)]

/-- The request for settings, all of them given. -/
def ofSettings (s : Settings) : SettingsRequest :=
  some ((values s).map fun f => (f.1, .ok f.2))

/-- Settings as they are given by such a request. -/
def given (s : Settings) : GivenSettings where
  constants c := .double (s.get c)
  warning := .flag s.warnOnZeroPressure

theorem settings_given (s : Settings) : (given s).settings = .ok s := rfl

/-- What is given is checked as it is. -/
theorem read_ofSettings (s : Settings) :
    (ofSettings s).read = (Settings.Constant.ranged.forM (given s).checkConstant).map
      fun _ => given s := by
  have read : ((values s).map fun f => (f.1, Except.ok (α := Setting) f.2)).mapM
      (fun f => f.2.map (f.1, ·)) = (.ok (values s) : Except InputFault _) := rfl
  have assigned : (values s).foldlM (fun (g : GivenSettings) f => g.assign f.1 f.2) {} =
      .ok (given s) := by
    refine Eq.trans rfl (congrArg Except.ok (congrArg₂ GivenSettings.mk (funext fun c => ?_) rfl))
    cases c <;> rfl
  change GivenSettings.ofFields ((values s).map fun f => (f.1, .ok f.2)) = _
  rw [GivenSettings.ofFields, read]
  simp only [Except.mapError, bind, Except.bind, assigned]
  cases Settings.Constant.ranged.forM (given s).checkConstant <;> rfl

theorem settings?_ofSettings {s : Settings} (accepted : s.Accepted) :
    (ofSettings s).settings? = .ok s := by
  have checked := (GivenSettings.forM_checkConstant_eq_ok_iff (settings_given s)).mpr accepted
  rw [settings?, read_ofSettings, checked]
  rfl

theorem exists_fault_of_read {s : Settings} (refused : ¬s.Accepted) :
    ∃ fault, (ofSettings s).read = .error (.settings fault) := by
  obtain ⟨fault, failed⟩ := GivenSettings.exists_fault_of_not_accepted (settings_given s) refused
  exact ⟨fault, by rw [read_ofSettings, failed]; rfl⟩

/-- Whatever is given of them, settings that are asked for are in range. -/
theorem accepted_of_settings? {request : SettingsRequest} {s : Settings}
    (asked : request.settings? = .ok s) : s.Accepted := by
  obtain ⟨g, read, numbers⟩ := bind_eq_ok_iff.mp asked
  have numbers := mapError_eq_ok_iff.mp numbers
  cases request with
  | none =>
      cases read
      have default : ({} : GivenSettings) = given {} := rfl
      rw [default, settings_given] at numbers
      rw [← Except.ok.inj numbers]
      exact Settings.accepted_of_smallRate (.inl (by decide +kernel))
  | some fields =>
      rw [← GivenSettings.forM_checkConstant_eq_ok_iff numbers]
      obtain ⟨values, _, read⟩ := bind_eq_ok_iff.mp read
      obtain ⟨assigned, _, read⟩ := bind_eq_ok_iff.mp read
      obtain ⟨_, checked, read⟩ := bind_eq_ok_iff.mp read
      cases read
      exact checked

end SettingsRequest

namespace Session

variable {s : Session} {id set : String} {ws : WellSet} {pressure : Datum}

/-- What comes of making a first state of wells under settings all of which are given. Settings
out of range are refused. Otherwise the open wells under no surface rate have rates with the signs
of their roles, unless the small rate is a NaN. -/
structure SeedsSigns (s : Session) (id set : String) (ws : WellSet) (pressure : Datum)
    (given : Settings) : Prop where
  asked : given.Accepted → (SettingsRequest.ofSettings given).settings? = .ok given
  refused : ¬given.Accepted → ∃ fault,
    (s.step (.seed id (some set) pressure (.ofSettings given))).2.outcome =
      .error (.settings fault)
  signs : ∀ reply,
    (s.step (.seed id (some set) pressure (.ofSettings given))).2.outcome = .ok reply →
      given.Accepted ∧ ∃ state,
        (s.step (.seed id (some set) pressure (.ofSettings given))).1.view id = .ok state ∧
          state.CarriesSigns ws given.smallRate

theorem seedsSigns (given : Settings) (bound : s.wellSets.find? set = some ws) :
    s.SeedsSigns id set ws pressure given := by
  refine ⟨SettingsRequest.settings?_ofSettings, ?_, ?_⟩
  · intro out
    obtain ⟨fault, failed⟩ := SettingsRequest.exists_fault_of_read out
    refine ⟨fault, outcome_step_of_error ?_⟩
    rw [perform, seed, Reported.outcome_bind, Reported.outcome_ofExcept, failed]
    rfl
  · intro reply answered
    obtain ⟨settings, shown, state, asked, found, made, after⟩ := exists_initial_of_seed answered
    cases (optionalWells_of_bound bound).symm.trans found
    have accepted : given.Accepted := by
      by_contra out
      obtain ⟨fault, failed⟩ := SettingsRequest.exists_fault_of_read out
      rw [SettingsRequest.settings?, failed] at asked
      cases asked
    cases (SettingsRequest.settings?_ofSettings accepted).symm.trans asked
    refine ⟨accepted, state, ?_, WellState.carriesSigns_of_initial accepted.smallRate made⟩
    rw [after, view_bindState]

/-- A state that is made anew in the course of a session has rates with the signs of roles, too. -/
theorem reseed_carriesSigns (commands : List Command) {name : String} {ref : StateRef}
    {reply : Reply} (state : (({} : Session).run commands).states.find? name = some ref)
    (bound : (({} : Session).run commands).wellSets.find? set = some ws)
    (answered : ((({} : Session).run commands).step
      (.reseed name (some set) pressure)).2.outcome = .ok reply) :
    ∃ made, ((({} : Session).run commands).step (.reseed name (some set) pressure)).1.view name =
        .ok made ∧ made.CarriesSigns ws ref.settings.smallRate := by
  obtain ⟨request, asked⟩ := settingsAsked_run commands name ref state
  obtain ⟨shown, made, found, outcome, view⟩ := exists_initial_of_reseed state answered
  cases (optionalWells_of_bound bound).symm.trans found
  have accepted := SettingsRequest.accepted_of_settings? asked
  exact ⟨made, view, WellState.carriesSigns_of_initial accepted.smallRate outcome⟩

/-- Under settings in range, a first state that can be made is made. -/
theorem seed_of_firstState (id : String) {given : Settings} {made : WellState}
    (accepted : given.Accepted)
    (first : (s.firstState given (some set) pressure).outcome = .ok made) :
    (∃ reply, (s.step (.seed id (some set) pressure (.ofSettings given))).2.outcome = .ok reply) ∧
      (s.step (.seed id (some set) pressure (.ofSettings given))).1.view id = .ok made := by
  obtain ⟨_, _, outcome⟩ := outcome_firstState_eq_ok_iff.mp first
  obtain ⟨v, view⟩ := WellState.exists_view_of_initial outcome
  rw [step_seed (SettingsRequest.settings?_ofSettings accepted), settle]
  simp only [first, view]
  exact ⟨⟨.state v, rfl⟩, view_bindState s id made⟩

/-- The least double above zero as the small rate. -/
def leastRate : Settings := { smallRate := Float.ofBits 1 }

/-- A small rate that is no number. -/
def noRate : Settings := { smallRate := Datum.nan }

theorem accepted_leastRate : leastRate.Accepted :=
  Settings.accepted_of_smallRate (.inl (by decide +kernel))

theorem seedsSigns_leastRate :
    producerField.wellSets.find? "field" = some openProducer ∧ leastRate.Accepted ∧
      (∃ reply, (producerField.step (.seed "state" (some "field") (.ofFloats [2e7])
        (.ofSettings leastRate))).2.outcome = .ok reply) ∧
      producerField.SeedsSigns "state" "field" openProducer (.ofFloats [2e7]) leastRate := by
  obtain ⟨made, first⟩ : ∃ made,
      (producerField.firstState leastRate (some "field") (.ofFloats [2e7])).outcome = .ok made :=
    ⟨_, rfl⟩
  exact ⟨bound_producerField, accepted_leastRate,
    (seed_of_firstState "state" accepted_leastRate first).1,
    seedsSigns leastRate bound_producerField⟩

/-- A producer that is open under a bottom hole pressure can have rates that are NaNs. -/
theorem not_negative_noRate :
    ∃ reply state rate w, (producerField.step (.seed "state" (some "field") (.ofFloats [2e7])
        (.ofSettings noRate))).2.outcome = .ok reply ∧
      (producerField.step (.seed "state" (some "field") (.ofFloats [2e7])
        (.ofSettings noRate))).1.view "state" = .ok state ∧
      openProducer.wells[0]? = some w ∧ w.role = .member .producer ∧
      w.stack.stopped = false ∧ w.activeKind? = some .bhp ∧
      state.wellRates.entries[0]? = some rate ∧ rate.isNaN = true ∧ ¬rate < 0.0 := by
  obtain ⟨made, rate, first, place, nan⟩ : ∃ made rate,
      (producerField.firstState noRate (some "field") (.ofFloats [2e7])).outcome = .ok made ∧
        made.wellRates.entries[0]? = some rate ∧ rate.isNaN = true := ⟨_, _, rfl, rfl, rfl⟩
  have accepted : noRate.Accepted := Settings.accepted_of_smallRate (.inr rfl)
  obtain ⟨⟨reply, answered⟩, view⟩ := seed_of_firstState "state" accepted first
  exact ⟨reply, made, rate, _, answered, view, rfl, rfl, rfl, rfl, place, nan,
    Number.not_isNaN_lt nan 0.0⟩

end Session

end Reservoir
