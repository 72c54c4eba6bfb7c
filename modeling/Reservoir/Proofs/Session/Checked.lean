import Reservoir.Proofs.Control.Checked
import Reservoir.Proofs.Session.FirstState

/-!
# Initializing wells that were only changed by checked commands

Sets of wells that were made, filled and operated by commands that check their arguments stay
`Checked`, whatever the order of the commands and whichever of them fail.
`Session.step_lacksOnlyAmbient` says what is left that can keep a first state from being made of
such a set, unless it has more rates than an array can have: a well that is under no control or
under a rate needs the ambient pressure of its top cell, and the pressure field does not have it.
-/

namespace Reservoir

theorem Choice.counts_of_readPhases {phases : Choice Int} {n : Nat}
    (h : WellState.readPhases phases = .ok n) : phases.Counts n := by
  intro entries counted
  unfold WellState.readPhases at h
  split at h
  · cases h
    exact_mod_cast not_not.mp (of_decide_eq_false counted)
  · next b =>
    have value : b.toNat = n := by exact_mod_cast Except.ok.inj h
    rw [← value]
    simpa [miscounted] using counted
  · cases h

/-- Commands that check their arguments. A number of phases has to be a whole number. -/
def Command.Checked : Command → Prop
  | .plain (.makeWells _ phases) => ∃ n, WellState.readPhases phases = .ok n
  | .plain (.control _ _ call) => call.Checked
  | .plain (.setRole ..) | .plain (.setPhases ..) => False
  | _ => True

namespace WellSet

/-- A set of wells for `n` phases whose wells have a role and a checked stack. -/
structure Checked (n : Nat) (ws : WellSet) : Prop where
  phases : WellState.readPhases ws.phases = .ok n
  roles : ∀ w ∈ ws.wells, ∃ r, w.role = .member r
  stack : ∀ w ∈ ws.wells, w.stack.Checked ws.phases n

theorem checked_of_create {phases : Choice Int} {p : Int} {ws : WellSet}
    (whole : WellState.readPhases phases = .ok p) (h : create phases = .ok ws) :
    ∃ n, ws.Checked n := by
  have counted := WellState.counted_of_create h
  obtain ⟨few, _, h⟩ := bind_eq_ok_iff.mp h
  split at h
  · cases h
  · cases h
    refine ⟨p.toNat, ?_, nofun, nofun⟩
    rw [Int.toNat_of_nonneg (counted p whole)]
    exact whole

variable {n : Nat} {ws : WellSet}

theorem Checked.push {name : String} {role : Choice Role} {cells : Datum} {w : Well}
    (h : ws.Checked n) (made : ws.newWell name role cells = .ok w) : (ws.push w).Checked n := by
  unfold newWell at made
  cases role with
  | other given => cases made
  | member r =>
      obtain ⟨ids, _, made⟩ := bind_eq_ok_iff.mp made
      cases made
      refine ⟨h.phases, ?_, ?_⟩
      · intro v hv
        rcases List.mem_append.mp hv with hv | hv
        · exact h.roles v hv
        · rw [List.mem_singleton.mp hv]
          exact ⟨r, rfl⟩
      · intro v hv
        rcases List.mem_append.mp hv with hv | hv
        · exact h.stack v hv
        · rw [List.mem_singleton.mp hv]
          exact ControlStack.checked_empty ws.phases n

theorem Checked.modify {stack : ControlStack} (h : ws.Checked n) (i : Nat)
    (checked : stack.Checked ws.phases n) : (ws.modify i ({ · with stack })).Checked n := by
  have wells : ∀ v ∈ (ws.modify i ({ · with stack })).wells,
      (∃ u ∈ ws.wells, v.role = u.role) ∧ v.stack.Checked ws.phases n := by
    intro v hv
    obtain ⟨j, hj⟩ := List.mem_iff_getElem?.mp hv
    rw [WellSet.modify, List.getElem?_modify, Option.map_eq_map, Option.map_eq_some_iff] at hj
    obtain ⟨u, hu, rfl⟩ := hj
    have member := List.mem_of_getElem? hu
    split
    · exact ⟨⟨u, member, rfl⟩, checked⟩
    · exact ⟨⟨u, member, rfl⟩, h.stack u member⟩
  refine ⟨h.phases, ?_, fun v hv => (wells v hv).2⟩
  intro v hv
  obtain ⟨u, hu, role⟩ := (wells v hv).1
  rw [role]
  exact h.roles u hu

end WellSet

namespace Session

/-- All sets of wells of a session are checked. -/
def Checked (s : Session) : Prop :=
  ∀ name ws, s.wellSets.find? name = some ws → ∃ n, ws.Checked n

variable {s t : Session}

theorem Checked.bindWells {name : String} {ws : WellSet} (h : s.Checked)
    (checked : ∃ n, ws.Checked n) : (s.bindWells name ws).Checked := by
  intro other found bound
  rw [Session.bindWells, Registry.find?_insert] at bound
  split at bound
  · cases bound
    exact checked
  · exact h other found bound

/-- Only the sets of wells have to be checked. -/
theorem Checked.of_wellSets_eq (h : s.Checked) (same : t.wellSets = s.wellSets) : t.Checked := by
  intro name ws bound
  rw [same] at bound
  exact h name ws bound

/-- A checked command keeps all sets of wells checked. -/
theorem Checked.change {command : Command} (checked : command.Checked) (h : s.Checked)
    (change : s.Change command t) : t.Checked := by
  cases change with
  | seed | reseed | makeState | poke | pokeRate | replace | hold | unpack | unpackFrom =>
      exact h.of_wellSets_eq rfl
  | ask => exact h
  | makeWells made =>
      obtain ⟨p, whole⟩ := checked
      exact h.bindWells (WellSet.checked_of_create whole made)
  | addWell bound made =>
      obtain ⟨n, hws⟩ := h _ _ bound
      exact h.bindWells ⟨n, hws.push made⟩
  | control bound well changed =>
      obtain ⟨n, hws⟩ := h _ _ bound
      have counts := Choice.counts_of_readPhases hws.phases
      have stack := hws.stack _ (List.mem_of_getElem? well)
      exact h.bindWells ⟨n, hws.modify _ (stack.change counts checked changed)⟩
  | setRole => exact checked.elim
  | setPhases => exact checked.elim

theorem checked_run {commands : List Command} (checked : ∀ c ∈ commands, c.Checked) :
    (({} : Session).run commands).Checked :=
  run_induction Checked.change checked nofun

end Session

namespace ControlStack

variable {phases : Choice Int} {n : Nat} {s : ControlStack}

theorem Checked.numeric (h : s.Checked phases n) : s.Numeric := by
  intro c hc
  refine ⟨(h.controls c hc).target, ?_⟩
  intro v hv
  obtain ⟨values, rfl, _⟩ := (h.controls c hc).shares v hv
  exact ⟨values, rfl⟩

end ControlStack

namespace Well

/-- Wells under no control or under a rate. -/
def NeedsAmbient (w : Well) : Prop :=
  w.stack.activeKind = .ok none ∨ w.stack.activeKind = .ok (some (.member .reservoirRate)) ∨
    w.stack.activeKind = .ok (some (.member .surfaceRate))

/-- Wells whose first cell is not there or has no place in the pressure field. -/
def LacksAmbient (pressure : List Float) (w : Well) : Prop :=
  ∀ c ∈ w.cells.head?, ¬(0 ≤ c ∧ c < pressure.length)

variable {w : Well} {pressure : List Float}

theorem exists_ambientFault_iff :
    (∃ e, w.ambientFault? pressure = some e) ↔ w.LacksAmbient pressure := by
  rw [ambientFault?, LacksAmbient]
  cases w.cells with
  | nil => simp
  | cons c cells =>
      simp only [List.head?_cons, Option.mem_some_iff, forall_eq']
      split
      · next inside => simp [inside]
      · next outside => simp [outside]

/-- A checked control of surface rates has one share for each phase. -/
theorem sharesFault?_of_checked {n : Nat} {c : Control} (h : c.Checked n)
    (kind : c.kind = .member .surfaceRate) : w.sharesFault? n c = none := by
  cases hshares : c.shares with
  | none => exact absurd hshares (h.surfaceRate kind)
  | some v =>
      obtain ⟨values, rfl, length⟩ := h.shares v hshares
      rw [sharesFault?, hshares]
      exact if_pos length

/-- With checked controls only a missing ambient pressure is left as a fault. -/
theorem fault?_of_checked {phases : Choice Int} {n : Nat} {role : Role}
    (hrole : w.role = .member role) (h : w.stack.Checked phases n) (pressure : List Float) :
    (w.NeedsAmbient ∧ w.fault? n pressure = (w.ambientFault? pressure).map .well) ∨
      (¬w.NeedsAmbient ∧ w.fault? n pressure = none) := by
  rw [fault?, NeedsAmbient, hrole]
  rcases h.activeControl_eq with idle | ⟨c, checked, active⟩
  · rw [idle]
    exact .inl ⟨.inl (ControlStack.activeKind_of_none idle), rfl⟩
  · obtain ⟨k, kind⟩ := checked.kind
    rw [active, ControlStack.activeKind_of_member active kind]
    simp only [activeFault?, kind]
    cases k with
    | bhp => exact .inr ⟨by simp, rfl⟩
    | thp => exact .inr ⟨by simp, rfl⟩
    | reservoirRate => exact .inl ⟨by simp, rfl⟩
    | surfaceRate =>
        refine .inl ⟨by simp, ?_⟩
        rw [sharesFault?_of_checked checked kind]
        cases w.stack.stopped <;> rfl

end Well

namespace Seed

variable {settings : Settings} {phases : Choice Int} {n : Nat} {role : Role} {w : Well}
  {pressure : List Float}

/-- A checked well is refused for want of an ambient pressure, or not at all. -/
theorem ofWell_error_iff_of_checked (hrole : w.role = .member role)
    (h : w.stack.Checked phases n) (e : Fault) :
    ofWell settings n pressure w = .error e ↔
      w.NeedsAmbient ∧ (w.ambientFault? pressure).map .well = some e := by
  rcases Well.fault?_of_checked hrole h pressure with ⟨needs, fault⟩ | ⟨needs, fault⟩
  · rw [← fault]
    cases hf : w.fault? n pressure with
    | some d =>
        rw [ofWell_of_fault h.numeric hf]
        simp [needs]
    | none =>
        obtain ⟨s, made, _⟩ := ofWell_of_no_fault settings h.numeric hf
        rw [made]
        simp
  · obtain ⟨s, made, _⟩ := ofWell_of_no_fault settings h.numeric fault
    rw [made]
    simp [needs]

end Seed

/-- An attempt to make a first state of wells that only a missing ambient pressure can end: that
of a well under no control or under a rate. The refusal is about such a well, and says whether it
has no first cell or its first cell has no pressure. -/
structure WellSet.LacksOnlyAmbient {α : Type} (ws : WellSet) (pressure : List Float)
    (r : Reported α) : Prop where
  error_iff : (∃ e, r.outcome = .error e) ↔
    ∃ w ∈ ws.wells, w.NeedsAmbient ∧ w.LacksAmbient pressure
  cause : ∀ e, r.outcome = .error e → ∃ w ∈ ws.wells, w.NeedsAmbient ∧
    ∃ fault, w.ambientFault? pressure = some fault ∧ e = .well fault

namespace WellSet

variable {α β : Type} {ws : WellSet} {n : Nat} {pressure : List Float}

/-- What is answered for a first state has no part in what refuses it. -/
theorem LacksOnlyAmbient.map {r : Reported α} (h : ws.LacksOnlyAmbient pressure r) (f : α → β) :
    ws.LacksOnlyAmbient pressure (r.map f) := by
  have same : ∀ e, (r.map f).outcome = .error e ↔ r.outcome = .error e := by
    intro e
    rw [Reported.outcome_map]
    cases r.outcome <;> simp [Except.map]
  constructor
  · simp only [same]
    exact h.error_iff
  · intro e failed
    exact h.cause e ((same e).mp failed)

/-- The wells of a checked set are initialized up to the first that lacks its ambient pressure. -/
theorem Checked.lacksOnlyAmbient (h : ws.Checked n) (small : n * ws.size < WellState.rateLimit)
    (settings : Settings) (pressure : List Float) :
    ws.LacksOnlyAmbient pressure
      (WellState.initial settings (some ws) (.ofFloats pressure)) := by
  have refused : ∀ w ∈ ws.wells, ∀ e, Seed.ofWell settings n pressure w = .error e ↔
      w.NeedsAmbient ∧ (w.ambientFault? pressure).map .well = some e := by
    intro w hw e
    obtain ⟨role, hrole⟩ := h.roles w hw
    exact Seed.ofWell_error_iff_of_checked hrole (h.stack w hw) e
  have outcome : ∀ e, (WellState.initial settings (some ws) (.ofFloats pressure)).outcome =
      .error e ↔ ws.wells.mapM (Seed.ofWell settings n pressure) = .error e := by
    intro e
    rw [WellState.outcome_initial h.phases small]
    cases ws.wells.mapM (Seed.ofWell settings n pressure) <;> simp [Except.map]
  constructor
  · simp only [outcome, exists_mapM_eq_error_iff]
    constructor
    · rintro ⟨w, hw, e, failed⟩
      obtain ⟨needs, lacks⟩ := (refused w hw e).mp failed
      obtain ⟨cause, lacks, _⟩ := Option.map_eq_some_iff.mp lacks
      exact ⟨w, hw, needs, Well.exists_ambientFault_iff.mp ⟨cause, lacks⟩⟩
    · rintro ⟨w, hw, needs, lacks⟩
      obtain ⟨cause, lacks⟩ := Well.exists_ambientFault_iff.mpr lacks
      exact ⟨w, hw, .well cause, (refused w hw _).mpr ⟨needs, by rw [lacks]; rfl⟩⟩
  · intro e failed
    obtain ⟨_, w, _, split, _, failed⟩ := mapM_eq_error_iff.mp ((outcome e).mp failed)
    have hw : w ∈ ws.wells := by simp [split]
    obtain ⟨needs, lacks⟩ := (refused w hw e).mp failed
    obtain ⟨cause, fault, rfl⟩ := Option.map_eq_some_iff.mp lacks
    exact ⟨w, hw, needs, cause, fault, rfl⟩

end WellSet

namespace Session

open WellState (rateLimit)

variable {commands : List Command} {ws : WellSet} {np : Nat}

/-- Of sets of wells that only checked commands were used on, exactly those are refused that
have a well under no control or under a rate whose first cell has no pressure, whether a state is
made from them or made anew. -/
theorem step_lacksOnlyAmbient (checked : ∀ c ∈ commands, c.Checked) {wells : String}
    (bound : (({} : Session).run commands).wellSets.find? wells = some ws)
    (phases : WellState.readPhases ws.phases = .ok np) (small : np * ws.size < rateLimit)
    (pressure : List Float) :
    (∀ (request : SettingsRequest) (settings : Settings), request.settings? = .ok settings →
      ∀ id, ws.LacksOnlyAmbient pressure
        ((({} : Session).run commands).step
          (.seed id (some wells) (.ofFloats pressure) request)).2) ∧
    ∀ (name : String) (ref : StateRef),
      (({} : Session).run commands).states.find? name = some ref →
        ws.LacksOnlyAmbient pressure
          ((({} : Session).run commands).step
            (.reseed name (some wells) (.ofFloats pressure))).2 := by
  obtain ⟨n, hws⟩ := checked_run checked wells ws bound
  obtain rfl : np = n := by exact_mod_cast Except.ok.inj (phases.symm.trans hws.phases)
  constructor
  · intro request settings asked id
    rw [step_seed asked, firstState_of_bound bound, settle_initial]
    exact (hws.lacksOnlyAmbient small settings pressure).map _
  · intro name ref known
    rw [step_reseed known, firstState_of_bound bound, settle_initial]
    exact (hws.lacksOnlyAmbient small ref.settings pressure).map _

/-- A stopped injector under a bottom hole pressure, beside a producer under no control. A
well of an unknown role, and an activation outside the stack, are refused. -/
def stoppedBesideIdle : List Command :=
  [.plain (.makeWells "field" (.member 2)),
   .plain (.addWell "field" "A" (.member .injector) (.list [])),
   .plain (.control "field" 0 (.add (.member .bhp) (.float 2e7) .null)),
   .plain (.control "field" 0 (.activate 1)),
   .plain (.control "field" 0 .stop),
   .plain (.addWell "field" "B" (.other (.text "observer")) (.list [])),
   .plain (.addWell "field" "C" (.member .producer) (.list []))]

theorem checked_stoppedBesideIdle : ∀ c ∈ stoppedBesideIdle, c.Checked := by
  simp only [stoppedBesideIdle, List.forall_mem_cons, List.not_mem_nil, false_implies,
    implies_true, and_true]
  exact ⟨⟨2, rfl⟩, trivial, trivial, trivial, trivial, trivial, trivial⟩

theorem step_lacksOnlyAmbient_stoppedBesideIdle :
    (∀ c ∈ stoppedBesideIdle, c.Checked) ∧ ∃ ws,
      (({} : Session).run stoppedBesideIdle).wellSets.find? "field" = some ws ∧
      WellState.readPhases ws.phases = .ok 2 ∧ 2 * ws.size < rateLimit ∧
      ws.LacksOnlyAmbient [1e7] ((({} : Session).run stoppedBesideIdle).step
        (.seed "state" (some "field") (.ofFloats [1e7]) none)).2 := by
  obtain ⟨ws, bound, phases, small⟩ : ∃ ws,
      (({} : Session).run stoppedBesideIdle).wellSets.find? "field" = some ws ∧
        WellState.readPhases ws.phases = .ok (2 : Nat) ∧ (2 : Nat) * ws.size < rateLimit :=
    ⟨_, rfl, rfl, by decide⟩
  exact ⟨checked_stoppedBesideIdle, ws, bound, phases, small,
    (step_lacksOnlyAmbient checked_stoppedBesideIdle bound phases small [1e7]).1 none {} rfl
      "state"⟩

/-- A producer without cells, in a set with more phases than an array can have entries. -/
def crowdedPhases : List Command :=
  [.plain (.makeWells "field" (.member 4611686018427387904)),
   .plain (.addWell "field" "A" (.member .producer) (.list []))]

/-- Wells that would have too many rates are refused for their number, not for a well. -/
theorem not_lacksOnlyAmbient_crowdedPhases :
    (∀ c ∈ crowdedPhases, c.Checked) ∧ ∃ ws,
      (({} : Session).run crowdedPhases).wellSets.find? "field" = some ws ∧
      ¬ws.LacksOnlyAmbient [] ((({} : Session).run crowdedPhases).step
        (.seed "state" (some "field") (.ofFloats []) none)).2 := by
  have checked : ∀ c ∈ crowdedPhases, c.Checked := by
    simp only [crowdedPhases, List.forall_mem_cons, List.not_mem_nil, false_implies, implies_true,
      and_true]
    exact ⟨⟨4611686018427387904, rfl⟩, trivial⟩
  have outcome : ((({} : Session).run crowdedPhases).step
      (.seed "state" (some "field") (.ofFloats []) none)).2.outcome =
        .error (.input .excessiveLength) := by rfl
  refine ⟨checked, _, rfl, fun lacks => ?_⟩
  obtain ⟨_, _, _, _, _, about⟩ := lacks.cause _ outcome
  cases about

end Session

end Reservoir
