import Reservoir.Proofs.State.Rates
import Reservoir.State.Initial

/-!
# States that are populated well by well

The wells of a set are initialized in place, one after the other. `WellState.populated` is a state
in between: it holds the seeds of the wells that are done, and zeros for the wells that are left.
A well that is initialized in place makes the next such state of it, so that in the end the state
is the one that the seeds of all wells make up.

An object that is initialized either stays as it was, or is given this state field by field.
-/

namespace Reservoir

namespace Seed

/-- The first states of a list of wells. -/
def all (settings : Settings) (phases : Nat) (pressure : List Float) :
    List Well → Reported (List Seed)
  | [] => pure []
  | w :: ws =>
    match ofWell settings phases pressure w with
    | .error e => .ofExcept (.error e)
    | .ok s =>
      let rest := all settings phases pressure ws
      ⟨report settings w s ++ rest.journal, rest.outcome.map (s :: ·)⟩

/-- Wells are initialized one by one, up to the first that cannot be. -/
theorem outcome_all (settings : Settings) (phases : Nat) (pressure : List Float)
    (ws : List Well) :
    (all settings phases pressure ws).outcome = ws.mapM (ofWell settings phases pressure) := by
  induction ws with
  | nil => rfl
  | cons w ws ih =>
      rw [all]
      cases hw : ofWell settings phases pressure w with
      | error e => exact (mapM_cons_of_error ws hw).symm
      | ok s => rw [mapM_cons_of_ok ws hw, ← ih]

end Seed

/-- The entries that stand for one part after another, written over zeros that are left: the next
part takes the place of the first of them. -/
theorem Block.overwrite_next {α β : Type} (f : β → List α) (zero : α) (left : Nat) {width : Nat}
    {done : List β} {next : β} (length : ∀ b ∈ done ++ [next], (f b).length = width) :
    (flat (done.flatMap f ++ List.replicate ((left + 1) * width) zero)).overwrite
        (done.length * width) (f next) =
      flat ((done ++ [next]).flatMap f ++ List.replicate (left * width) zero) := by
  have place : done.length * width = (done.flatMap f).length :=
    (length_flatMap_of_length fun b hb => length b (List.mem_append_left _ hb)).symm
  have fits : (f next).length = (List.replicate width zero).length := by
    rw [length next (by simp), List.length_replicate]
  have zeros : List.replicate ((left + 1) * width) zero =
      List.replicate width zero ++ List.replicate (left * width) zero := by
    rw [List.replicate_append_replicate, Nat.succ_mul, Nat.add_comm]
  rw [zeros, ← List.append_assoc, overwrite_flat _ _ place fits]
  simp

namespace WellState

open Steps
open StateObject (setPhases setArray)

/-- A state in which wells with the given seeds have been initialized, and `left` wells are left. -/
def populated (settings : Settings) (phases : Int) (seeds : List Seed) (left : Nat) :
    WellState :=
  { bhp := .flat (seeds.map (·.bhp) ++ List.replicate left 0.0)
    thp := .flat (seeds.map (·.thp) ++ List.replicate left 0.0)
    temperature := .flat (List.replicate (seeds.length + left) settings.standardKelvin)
    wellRates := .flat
      (seeds.flatMap (·.rates) ++ List.replicate (left * phases.toNat) 0.0)
    perfRates := .flat []
    perfPress := .flat []
    settings
    phases }

/-- The state that the seeds of a set of wells make up. -/
def ofSeeds (settings : Settings) (phases : Int) (ws : WellSet) (seeds : List Seed) :
    WellState :=
  { bhp := .flat (seeds.map (·.bhp))
    thp := .flat (seeds.map (·.thp))
    temperature := .flat (List.replicate ws.size settings.standardKelvin)
    wellRates := .flat (seeds.flatMap (·.rates))
    perfRates := .flat (List.replicate ws.totalConnections 0.0)
    perfPress := .flat (List.replicate ws.totalConnections settings.unsetPressure)
    settings
    phases }

/-- A state with the seed of a well written at the place of the well. -/
def writeSeed (n : Nat) (seed : Seed) (s : WellState) : WellState :=
  modifyArray .thp (·.overwrite n [seed.thp]) <| modifyArray .bhp (·.overwrite n [seed.bhp]) <|
    modifyArray .wellRates (·.overwrite (n * s.phases.toNat) seed.rates) s

section Populated

variable {settings : Settings} {phases : Int} {seeds : List Seed} {seed : Seed} {w : Well}
  {pressure : List Float}

/-- A seed is written over the first zeros that are left. -/
theorem writeSeed_populated (width : ∀ s ∈ seeds ++ [seed], s.rates.length = phases.toNat)
    (left : Nat) :
    writeSeed seeds.length seed (populated settings phases seeds (left + 1)) =
      populated settings phases (seeds ++ [seed]) left := by
  have rates := Block.overwrite_next Seed.rates 0.0 left width
  have entry (g : Seed → Float) :
      (Block.flat (seeds.map g ++ List.replicate (left + 1) 0.0)).overwrite seeds.length [g seed] =
        .flat ((seeds ++ [seed]).map g ++ List.replicate left 0.0) := by
    have next := Block.overwrite_next (fun s => [g s]) 0.0 left
      fun s (_ : s ∈ seeds ++ [seed]) => List.length_singleton
    simpa [← List.map_eq_flatMap] using next
  have count : seeds.length + (left + 1) = (seeds ++ [seed]).length + left := by
    rw [List.length_append, List.length_singleton]
    omega
  simp only [writeSeed, populated, modifyArray, setArray, Arrays.set, Arrays.get, rates, entry,
    count]

theorem result_populateWell (n : Nat) (s : WellState) :
    (populateWell pressure n w).result s =
      Reported.ofExcept (Seed.ofWell s.settings s.phases.toNat pressure w) >>= fun seed =>
        ⟨Seed.report s.settings w seed, .ok (writeSeed n seed s)⟩ := by
  rw [populateWell, result_look_bind, result_look_bind, result_lift_bind]
  rfl

/-- Wells are initialized in place behind those that are done. The induction is on the wells that
are left. -/
theorem result_populateWells (ws : List Well) (seeds : List Seed)
    (width : ∀ s ∈ seeds, s.rates.length = phases.toNat) :
    (populateWells pressure seeds.length ws).result
        (populated settings phases seeds ws.length) =
      (Seed.all settings phases.toNat pressure ws).map fun rest =>
        populated settings phases (seeds ++ rest) 0 := by
  induction ws generalizing seeds with
  | nil =>
      rw [populateWells, result_pure, Seed.all]
      show Reported.mk _ _ = Reported.mk _ (.ok (populated settings phases (seeds ++ []) 0))
      rw [List.append_nil]
      rfl
  | cons w ws ih =>
      rw [populateWells, result_bind, result_populateWell, Seed.all, List.length_cons]
      show ((Reported.ofExcept (Seed.ofWell settings phases.toNat pressure w)).andThen _).andThen _
        = _
      cases made : Seed.ofWell settings phases.toNat pressure w with
      | error e => rfl
      | ok seed =>
          have grown : ∀ s ∈ seeds ++ [seed], s.rates.length = phases.toNat := by
            intro s hs
            rcases List.mem_append.mp hs with done | next
            · exact width s done
            · rw [List.mem_singleton.mp next]
              exact Seed.length_rates made
          have rest := ih _ grown
          rw [List.length_append, List.length_singleton] at rest
          rw [Reported.andThen_ofExcept_ok, writeSeed_populated grown,
            Reported.andThen_of_ok rfl, rest]
          simp only [Reported.map, List.append_assoc, List.singleton_append]
          cases (Seed.all settings phases.toNat pressure ws).outcome <;> rfl

theorem toNat_natCast_mul (n : Nat) (p : Int) : (n * p).toNat = n * p.toNat := by
  cases p with
  | ofNat p => exact Int.toNat_natCast (n * p)
  | negSucc p =>
      rw [Int.toNat_negSucc, Nat.mul_zero, Int.toNat_eq_zero]
      exact Int.mul_nonpos_of_nonneg_of_nonpos (Int.natCast_nonneg n)
        (Int.le_of_lt (Int.negSucc_lt_zero p))

theorem eq_of_zeroRates {wells : Nat} {rates : Block Float}
    (h : zeroRates wells phases = .ok rates) :
    rates = .flat (List.replicate (wells * phases.toNat) 0.0) := by
  rw [zeroRates] at h
  split at h
  · cases h
  · split at h
    · cases h
    · rw [← Except.ok.inj h, toNat_natCast_mul]

theorem result_reset (wells : Nat) (phases : Int) (s : WellState) :
    (reset wells phases 0).result s =
      Reported.ofExcept ((zeroRates wells phases).mapError .input) >>= fun _ =>
        pure (populated s.settings phases [] wells) := by
  rw [reset, result_look_bind, result_write_bind, result_write_bind, result_write_bind,
    result_write_bind, ofInput, result_lift_bind]
  cases made : zeroRates wells phases with
  | error e => rfl
  | ok rates =>
      obtain rfl := eq_of_zeroRates made
      simp only [Except.mapError, Reported.bind_def, Reported.andThen_ofExcept_ok, populated,
        List.map_nil, List.flatMap_nil, List.nil_append, List.length_nil, Nat.zero_add]
      rfl

theorem result_resetConnections_bind (connections : Nat) (journal : Journal) (s : WellState) :
    (resetConnections connections >>= fun _ => lift (.tell journal)).result s =
      ⟨journal, .ok
        (setArray .perfPress (.flat (List.replicate connections s.settings.unsetPressure))
          (setArray .perfRates (.flat (List.replicate connections 0.0)) s))⟩ := by
  rfl

/-- When all wells are done, only the arrays of their connections are left to be made. -/
theorem setArray_populated {ws : WellSet} (count : seeds.length = ws.size) :
    setArray .perfPress (.flat (List.replicate ws.totalConnections settings.unsetPressure))
        (setArray .perfRates (.flat (List.replicate ws.totalConnections 0.0))
          (populated settings phases seeds 0)) =
      ofSeeds settings phases ws seeds := by
  simp only [populated, setArray, Arrays.set, ofSeeds, Nat.zero_mul, Nat.add_zero,
    List.replicate_zero, List.append_nil, count]

/-- From empty arrays, a set of wells makes the state of its seeds. -/
theorem result_populateWells_bind (ws : WellSet) (journal : Journal) :
    (populateWells pressure 0 ws.wells >>= fun _ =>
        resetConnections ws.totalConnections >>= fun _ => lift (.tell journal)).result
          (populated settings phases [] ws.size) =
      Seed.all settings phases.toNat pressure ws.wells >>= fun seeds =>
        ⟨journal, .ok (ofSeeds settings phases ws seeds)⟩ := by
  have wells : (populateWells pressure 0 ws.wells).result (populated settings phases [] ws.size) =
      (Seed.all settings phases.toNat pressure ws.wells).map fun seeds =>
        populated settings phases seeds 0 :=
    result_populateWells ws.wells [] fun _ h => absurd h List.not_mem_nil
  rw [result_bind, wells, Reported.bind_def, Reported.bind_def, Reported.map_andThen]
  cases made : (Seed.all settings phases.toNat pressure ws.wells).outcome with
  | error e => rw [Reported.andThen_of_error made, Reported.andThen_of_error made]
  | ok seeds =>
      have count : seeds.length = ws.size := by
        rw [Seed.outcome_all] at made
        exact (mapM_eq_ok_iff.mp made).length_eq.symm
      rw [Reported.andThen_of_ok made, Reported.andThen_of_ok made, result_resetConnections_bind,
        ← setArray_populated count]
      rfl

/-- The state that a set of wells populates is that of their seeds, which are made one by one. -/
theorem result_populate (settings : Settings) (ws : WellSet) (given : Datum) :
    (populate ws given).result (blank settings) = (do
      let phases ← Reported.ofExcept ((readPhases ws.phases).mapError .input)
      let _ ← Reported.ofExcept ((zeroRates ws.size phases).mapError .input)
      let pressure ← Reported.ofExcept ((readPressure ws given).mapError .input)
      let seeds ← Seed.all settings phases.toNat pressure ws.wells
      Reported.tell (.event (.stateInitialized ws.size ws.totalConnections))
      pure (ofSeeds settings phases ws seeds)) := by
  rw [populate, ofInput, result_lift_bind]
  congr 1
  funext phases
  rw [result_bind, result_reset]
  simp only [Reported.bind_def, Reported.andThen_assoc, Reported.pure_andThen]
  congr 1
  funext _
  rw [ofInput, result_lift_bind]
  congr 1
  funext pressure
  exact result_populateWells_bind ws _

/-- What is populated from a set of wells is made up of their seeds. -/
theorem exists_seeds_of_populate {ws : WellSet} {given : Datum} {state : WellState}
    (h : ((populate ws given).result (blank settings)).outcome = .ok state) :
    ∃ phases pressure seeds, readPhases ws.phases = .ok phases ∧
      (∃ rates, zeroRates ws.size phases = .ok rates) ∧ readPressure ws given = .ok pressure ∧
      ws.wells.mapM (Seed.ofWell settings phases.toNat pressure) = .ok seeds ∧
      state = ofSeeds settings phases ws seeds := by
  rw [result_populate] at h
  simp only [Reported.outcome_bind, Reported.outcome_ofExcept, Reported.outcome_tell,
    Reported.outcome_pure, Seed.outcome_all] at h
  obtain ⟨phases, read, h⟩ := bind_eq_ok_iff.mp h
  obtain ⟨rates, made, h⟩ := bind_eq_ok_iff.mp h
  obtain ⟨pressure, field, h⟩ := bind_eq_ok_iff.mp h
  obtain ⟨seeds, done, h⟩ := bind_eq_ok_iff.mp h
  cases h
  exact ⟨phases, pressure, seeds, mapError_eq_ok_iff.mp read, ⟨rates, mapError_eq_ok_iff.mp made⟩,
    mapError_eq_ok_iff.mp field, done, rfl⟩

end Populated

section StateObject

variable {σ : Type} [StateObject σ] {settings : Settings} {wells : Option WellSet} {given : Datum}
  {state : WellState}

/-- An object that has been given all fields of a state. -/
def adopted (state : WellState) (s : σ) : σ :=
  Field.all.foldl (fun t f => setArray f (state.toArrays.get f) t) (setPhases state.phases s)

theorem run_handOver (state : WellState) (s : σ) :
    (handOver state).run s = (adopted state s, pure ()) := rfl

/-- No field of a state is left out. -/
theorem adopted_eq {s : WellState} (same : state.settings = s.settings) :
    adopted state s = state := by
  obtain ⟨arrays, _, phases⟩ := state
  cases same
  rfl

/-- A new state that is initialized is the one that was populated for it. -/
theorem initial_some (settings : Settings) (ws : WellSet) (given : Datum) :
    initial settings (some ws) given = (populate ws given).result (blank settings) := by
  have same : ∀ state, ((populate ws given).result (blank settings)).outcome = .ok state →
      state.settings = settings := by
    intro state made
    obtain ⟨_, _, _, _, _, _, _, rfl⟩ := exists_seeds_of_populate made
    rfl
  rw [initial, init, result_look_bind, result_lift_bind, Reported.bind_def]
  show ((populate ws given).result (blank settings)).andThen _ = _
  generalize (populate ws given).result (blank settings) = staged at same
  obtain ⟨journal, outcome⟩ := staged
  cases outcome with
  | error e => rfl
  | ok state =>
      show Reported.mk (journal ++ {}) (.ok (adopted state (blank settings))) = _
      rw [adopted_eq (same state rfl), Journal.append_nil]

/-- The first state of wells is made up of their seeds. -/
theorem exists_seeds_of_initial {ws : WellSet}
    (h : (initial settings (some ws) given).outcome = .ok state) :
    ∃ phases pressure seeds, readPhases ws.phases = .ok phases ∧
      (∃ rates, zeroRates ws.size phases = .ok rates) ∧ readPressure ws given = .ok pressure ∧
      ws.wells.mapM (Seed.ofWell settings phases.toNat pressure) = .ok seeds ∧
      state = ofSeeds settings phases ws seeds := by
  rw [initial_some] at h
  exact exists_seeds_of_populate h

theorem settings_of_initial (h : (initial settings wells given).outcome = .ok state) :
    state.settings = settings := by
  cases wells with
  | none =>
      cases h
      rfl
  | some ws =>
      obtain ⟨_, _, _, _, _, _, _, rfl⟩ := exists_seeds_of_initial h
      rfl

/-- An object whose wells cannot be initialized is left as it was. -/
theorem run_init_of_error {s : σ} {e : Fault}
    (h : (initial (StateObject.settings s) wells given).outcome = .error e) :
    (init wells given).run s =
      (s, ⟨(initial (StateObject.settings s) wells given).journal, .error e⟩) := by
  cases wells with
  | none => cases h
  | some ws =>
      rw [initial_some] at h ⊢
      rw [init, run_look_bind, run_lift_bind_of_error h]

/-- An object that is initialized is given all fields of a new state. -/
theorem run_init_of_ok {s : σ}
    (h : (initial (StateObject.settings s) wells given).outcome = .ok state) :
    (init wells given).run s =
      (adopted state s, ⟨(initial (StateObject.settings s) wells given).journal, .ok ()⟩) := by
  cases wells with
  | none =>
      cases h
      rfl
  | some ws =>
      rw [initial_some] at h ⊢
      rw [init, run_look_bind, run_lift_bind_of_ok h, run_handOver]
      exact congrArg (fun journal => (_, Reported.mk journal _)) (Journal.append_nil _)

end StateObject

end WellState

end Reservoir
