import Mathlib.Data.List.DropRight
import Reservoir.Proofs.Control.Checked

/-!
# What a history of calls makes of a control stack

The calls on a stack with their answers determine the stack. Its controls are those that were
added since the stack was last cleared, the active one is the last that was activated since
then, or else the first, and the last call that stopped or reopened it says whether it is
stopped. A call that is refused leaves no trace.
-/

namespace Reservoir

/-- A call on a control stack, with its answer. -/
structure ControlCall where
  command : ControlCommand
  answer : Except Fault ControlReply

namespace ControlCall

/-- Whether a call removed all controls. -/
def clears : ControlCall → Bool
  | ⟨.clear, .ok _⟩ => true
  | _ => false

/-- Whether a call added a control. -/
def adds : ControlCall → Bool
  | ⟨.add .., .ok _⟩ => true
  | _ => false

/-- The position that a call made the active one. -/
def activated? : ControlCall → Option Int
  | ⟨.activate i, .ok _⟩ => some i
  | _ => none

/-- Whether a call left the stack stopped, if it stopped or reopened it. -/
def switched? : ControlCall → Option Bool
  | ⟨.stop, .ok _⟩ => some true
  | ⟨.reopen, .ok _⟩ => some false
  | _ => none

/-- A call that had no part in what the stack is. -/
structure Neutral (call : ControlCall) : Prop where
  clears : call.clears = false
  adds : call.adds = false
  activated : call.activated? = none
  switched : call.switched? = none

/-- A call that is refused leaves no trace. -/
theorem neutral_of_error (command : ControlCommand) (e : Fault) : Neutral ⟨command, .error e⟩ := by
  cases command <;> exact ⟨rfl, rfl, rfl, rfl⟩

theorem neutral_of_asks {command : ControlCommand} (asks : command.Asks)
    (answer : Except Fault ControlReply) : Neutral ⟨command, answer⟩ := by
  cases command <;> first | exact asks.elim | exact ⟨rfl, rfl, rfl, rfl⟩

/-- The control that a call added, and the position that it answered. -/
inductive Added (phases : Option (Choice Int)) : ControlCall → Nat → Control → Prop
  | mk {k : ControlKind} {target distribution : Datum} {t : Float}
      {shares : Option (List Float)} (n : Nat) (number : target.scalar = .ok t)
      (given : SharesGiven phases k distribution shares) :
      Added phases ⟨.add (.member k) target distribution, .ok (.position n)⟩ n
        ⟨.member k, .member t, shares.map .member⟩

theorem Added.exists_eq {phases : Option (Choice Int)} {call : ControlCall} {n : Nat}
    {c : Control} (h : Added phases call n c) :
    ∃ (k : ControlKind) (t : Float) (shares : Option (List Float)),
      c = ⟨.member k, .member t, shares.map .member⟩ := by
  cases h
  exact ⟨_, _, _, rfl⟩

/-- The calls since the controls were last removed. -/
def sinceClear (calls : List ControlCall) : List ControlCall :=
  calls.rtakeWhile fun call => !call.clears

/-- The calls that added the controls. -/
def additions (calls : List ControlCall) : List ControlCall :=
  (sinceClear calls).filter adds

/-- The position that was last made the active one, if one was since the last removal. -/
def lastActivated? (calls : List ControlCall) : Option Int :=
  ((sinceClear calls).filterMap activated?).getLast?

/-- Whether the stack was last stopped or reopened, if it was. -/
def lastSwitched? (calls : List ControlCall) : Option Bool :=
  (calls.filterMap switched?).getLast?

variable {calls : List ControlCall} {call : ControlCall}

theorem sinceClear_concat_of_clears (h : call.clears = true) :
    sinceClear (calls ++ [call]) = [] :=
  List.rtakeWhile_concat_neg _ _ _ (by simp [h])

theorem sinceClear_concat (h : call.clears = false) :
    sinceClear (calls ++ [call]) = sinceClear calls ++ [call] :=
  List.rtakeWhile_concat_pos _ _ _ (by simp [h])

theorem additions_concat_of_adds (keeps : call.clears = false) (h : call.adds = true) :
    additions (calls ++ [call]) = additions calls ++ [call] := by
  rw [additions, sinceClear_concat keeps, List.filter_append, List.filter_singleton, h]
  rfl

theorem additions_concat (keeps : call.clears = false) (h : call.adds = false) :
    additions (calls ++ [call]) = additions calls := by
  rw [additions, sinceClear_concat keeps, List.filter_append, List.filter_singleton, h]
  exact List.append_nil _

theorem lastActivated?_concat (keeps : call.clears = false) :
    lastActivated? (calls ++ [call]) = call.activated?.or (lastActivated? calls) := by
  rw [lastActivated?, sinceClear_concat keeps, List.filterMap_append, List.getLast?_append]
  cases h : call.activated? <;> simp [h, lastActivated?]

theorem lastSwitched?_concat (calls : List ControlCall) (call : ControlCall) :
    lastSwitched? (calls ++ [call]) = call.switched?.or (lastSwitched? calls) := by
  rw [lastSwitched?, List.filterMap_append, List.getLast?_append]
  cases h : call.switched? <;> simp [h, lastSwitched?]

end ControlCall

namespace ControlStack

/-- A list of commands as calls on a stack, each with the answer it is given. -/
def calls (s : ControlStack) : List ControlCommand → List ControlCall
  | [] => []
  | c :: cs => ⟨c, (s.run c).2⟩ :: (s.run c).1.calls cs

theorem calls_concat (s : ControlStack) (commands : List ControlCommand) (c : ControlCommand) :
    s.calls (commands ++ [c]) = s.calls commands ++ [⟨c, ((s.runAll commands).run c).2⟩] := by
  induction commands generalizing s with
  | nil => rfl
  | cons d commands ih => rw [List.cons_append, calls, calls, ih, runAll_cons, List.cons_append]

/-- A stack is what its history says. -/
structure Follows (given : Option (Choice Int)) (calls : List ControlCall)
    (s : ControlStack) : Prop where
  phases : s.phases = given
  controls : List.Forall₂ (fun added c => ControlCall.Added given added.1 added.2 c)
    (ControlCall.additions calls).zipIdx s.controls
  empty : s.controls = [] → s.active = -1 ∧ ControlCall.lastActivated? calls = none
  active : s.controls ≠ [] → s.active = (ControlCall.lastActivated? calls).getD 0
  inside : s.controls ≠ [] → 0 ≤ s.active ∧ s.active < s.controls.length
  stopped : s.stopped = (ControlCall.lastSwitched? calls).getD false

variable {phases : Option (Choice Int)} {history : List ControlCall} {s : ControlStack}

theorem follows_empty (phases : Option (Choice Int)) : (empty phases).Follows phases [] :=
  ⟨rfl, .nil, fun _ => ⟨rfl, rfl⟩, fun ne => absurd rfl ne, fun ne => absurd rfl ne, rfl⟩

/-- The controls are those that were added, one for one. -/
theorem Follows.length_additions (h : s.Follows phases history) :
    (ControlCall.additions history).length = s.controls.length := by
  rw [← List.length_zipIdx (l := ControlCall.additions history), h.controls.length_eq]

theorem run_add_of_ok {kind : Choice ControlKind} {target distribution : Datum} {c : Control}
    (read : readControl s.phases kind target distribution = .ok c) :
    s.run (.add kind target distribution) = (s.push c, .ok (.position s.controls.length)) := by
  rw [run, change, add, read]
  rfl

theorem run_add_of_error {kind : Choice ControlKind} {target distribution : Datum} {e : Fault}
    (read : readControl s.phases kind target distribution = .error e) :
    s.run (.add kind target distribution) = (s, .error e) := by
  rw [run, change, add, read]
  rfl

theorem run_activate_of_inside {i : Int} (inside : 0 ≤ i ∧ i < s.controls.length) :
    s.run (.activate i) = (s.setActive i, .ok .done) := by
  rw [run, change, activate, if_pos inside]
  rfl

theorem run_activate_of_not_inside {i : Int} (outside : ¬(0 ≤ i ∧ i < s.controls.length)) :
    s.run (.activate i) = (s, .error (.control (.noSuchControl i s.controls.length))) := by
  rw [run, change, activate, if_neg outside]
  rfl

/-- A question leaves the stack as it is, answered or not. -/
theorem run_of_asks {command : ControlCommand} (asks : command.Asks) :
    (s.run command).1 = s := by
  rw [run]
  cases h : s.change command with
  | error e => rfl
  | ok result => exact eq_of_ask asks h

/-- A call that leaves the controls and the active position as they were. -/
theorem Follows.switch (h : s.Follows phases history) {call : ControlCall} {b : Bool}
    (keeps : call.clears = false) (adds : call.adds = false) (activated : call.activated? = none)
    (switched : b = (call.switched?.or (ControlCall.lastSwitched? history)).getD false) :
    { s with stopped := b }.Follows phases (history ++ [call]) := by
  have same : ControlCall.lastActivated? (history ++ [call]) =
      ControlCall.lastActivated? history := by
    rw [ControlCall.lastActivated?_concat keeps, activated, Option.none_or]
  refine ⟨h.phases, ?_, ?_, ?_, h.inside, ?_⟩
  · rw [ControlCall.additions_concat keeps adds]
    exact h.controls
  · rw [same]
    exact h.empty
  · rw [same]
    exact h.active
  · rw [ControlCall.lastSwitched?_concat]
    exact switched

theorem Follows.neutral (h : s.Follows phases history) {call : ControlCall}
    (neutral : call.Neutral) : s.Follows phases (history ++ [call]) := by
  apply h.switch neutral.clears neutral.adds neutral.activated
  rw [neutral.switched, Option.none_or]
  exact h.stopped

theorem Follows.clear (h : s.Follows phases history) :
    s.clear.Follows phases (history ++ [⟨.clear, .ok .done⟩]) := by
  have none : ControlCall.sinceClear (history ++ [⟨.clear, .ok .done⟩]) = [] :=
    ControlCall.sinceClear_concat_of_clears rfl
  refine ⟨h.phases, ?_, fun _ => ⟨rfl, ?_⟩, fun ne => absurd rfl ne, fun ne => absurd rfl ne, ?_⟩
  · rw [ControlCall.additions, none]
    exact .nil
  · rw [ControlCall.lastActivated?, none]
    rfl
  · rw [ControlCall.lastSwitched?_concat]
    exact h.stopped

/-- Only a stack with controls has a position to activate. -/
theorem Follows.activate (h : s.Follows phases history) {i : Int}
    (inside : 0 ≤ i ∧ i < s.controls.length) :
    (s.setActive i).Follows phases (history ++ [⟨.activate i, .ok .done⟩]) := by
  have some : s.controls ≠ [] := by
    intro none
    rw [none] at inside
    exact absurd inside.2 (Int.not_lt.mpr inside.1)
  refine ⟨h.phases, ?_, fun none => absurd none some, ?_, fun _ => inside, ?_⟩
  · rw [ControlCall.additions_concat rfl rfl]
    exact h.controls
  · intro _
    rw [ControlCall.lastActivated?_concat rfl]
    rfl
  · rw [ControlCall.lastSwitched?_concat]
    exact h.stopped

/-- An added control becomes the active one if it is the first. -/
theorem Follows.push (h : s.Follows phases history) {kind : Choice ControlKind}
    {target distribution : Datum} {c : Control}
    (read : readControl s.phases kind target distribution = .ok c) :
    (s.push c).Follows phases
      (history ++ [⟨.add kind target distribution, .ok (.position s.controls.length)⟩]) := by
  obtain ⟨k, shares, t, rfl, given, number, rfl⟩ := readControl_eq_ok_iff.mp read
  rw [h.phases] at given
  have added := ControlCall.Added.mk s.controls.length number given
  refine ⟨h.phases, ?_, ?_, ?_, ?_, ?_⟩
  · rw [ControlCall.additions_concat_of_adds rfl rfl, List.zipIdx_append, h.length_additions]
    apply List.rel_append h.controls
    simpa using added
  · exact fun none => absurd none (List.append_ne_nil_of_right_ne_nil _ (List.cons_ne_nil _ _))
  · intro _
    rw [ControlCall.lastActivated?_concat rfl]
    -- Only an empty stack has no active position, so no later control becomes active by itself.
    by_cases first : s.controls = []
    · obtain ⟨idle, none⟩ := h.empty first
      rw [none, ControlStack.push, idle]
      rfl
    · have inside := h.inside first
      rw [ControlStack.push, if_neg (Int.not_lt.mpr inside.1)]
      exact h.active first
  · intro _
    rw [ControlStack.push]
    by_cases first : s.controls = []
    · obtain ⟨idle, _⟩ := h.empty first
      simp [idle, first]
    · have inside := h.inside first
      rw [if_neg (Int.not_lt.mpr inside.1)]
      simp only [List.length_append, List.length_singleton]
      omega
  · rw [ControlCall.lastSwitched?_concat]
    exact h.stopped

/-- What a call makes of a stack is what the history with the call says. -/
theorem Follows.step (h : s.Follows phases history) {command : ControlCommand}
    (checked : command.Checked) :
    (s.run command).1.Follows phases (history ++ [⟨command, (s.run command).2⟩]) := by
  by_cases asks : command.Asks
  · rw [run_of_asks asks]
    exact h.neutral (ControlCall.neutral_of_asks asks _)
  · cases command with
    | add kind target distribution =>
        cases read : readControl s.phases kind target distribution with
        | error e =>
            rw [run_add_of_error read]
            exact h.neutral (ControlCall.neutral_of_error _ e)
        | ok c =>
            rw [run_add_of_ok read]
            exact h.push read
    | activate i =>
        by_cases inside : 0 ≤ i ∧ i < s.controls.length
        · rw [run_activate_of_inside inside]
          exact h.activate inside
        · rw [run_activate_of_not_inside inside]
          exact h.neutral (ControlCall.neutral_of_error _ _)
    | clear => exact h.clear
    | stop => exact h.switch rfl rfl rfl rfl
    | reopen => exact h.switch rfl rfl rfl rfl
    | addUnchecked => exact checked.elim
    | setActive => exact checked.elim
    | _ => exact absurd trivial asks

theorem follows_runAll (phases : Option (Choice Int)) {commands : List ControlCommand}
    (checked : ∀ c ∈ commands, c.Checked) :
    ((empty phases).runAll commands).Follows phases ((empty phases).calls commands) := by
  -- A history grows at its end, so the induction takes commands off the end.
  induction commands using List.reverseRecOn with
  | nil => exact follows_empty phases
  | append_singleton commands c ih =>
      have before := ih fun d hd => checked d (List.mem_append_left [c] hd)
      have last := checked c (List.mem_append_right commands List.mem_cons_self)
      rw [calls_concat, runAll_append]
      exact before.step last

/-- Which calls a stack refuses; those it refuses leave it as it was. -/
structure Refuses (s : ControlStack) : Prop where
  unchanged : ∀ command e, (s.run command).2 = .error e → (s.run command).1 = s
  add_iff : ∀ kind target distribution,
    (∃ reply, (s.run (.add kind target distribution)).2 = .ok reply) ↔
      ∃ k shares t, kind = .member k ∧ SharesGiven s.phases k distribution shares ∧
        target.scalar = .ok t
  activate_iff : ∀ i, (∃ reply, (s.run (.activate i)).2 = .ok reply) ↔
    0 ≤ i ∧ i < s.controls.length
  accepts : ∀ command, command = .clear ∨ command = .stop ∨ command = .reopen →
    (s.run command).2 = .ok .done

theorem refuses (s : ControlStack) : s.Refuses := by
  refine ⟨?_, ?_, ?_, ?_⟩
  · intro command e refused
    rw [run] at refused ⊢
    cases changed : s.change command with
    | error d => rfl
    | ok result =>
        rw [changed] at refused
        cases refused
  · intro kind target distribution
    cases read : readControl s.phases kind target distribution with
    | error e =>
        rw [run_add_of_error read]
        refine iff_of_false nofun ?_
        rintro ⟨k, shares, t, member, given, number⟩
        cases read.symm.trans (readControl_eq_ok_iff.mpr ⟨k, shares, t, member, given, number, rfl⟩)
    | ok c =>
        rw [run_add_of_ok read]
        obtain ⟨k, shares, t, member, given, number, _⟩ := readControl_eq_ok_iff.mp read
        exact iff_of_true ⟨_, rfl⟩ ⟨k, shares, t, member, given, number⟩
  · intro i
    by_cases inside : 0 ≤ i ∧ i < s.controls.length
    · rw [run_activate_of_inside inside]
      exact iff_of_true ⟨_, rfl⟩ inside
    · rw [run_activate_of_not_inside inside]
      exact iff_of_false nofun inside
  · rintro command (rfl | rfl | rfl) <;> rfl

/-- Questions about the active control. A stack without controls has none; another one answers
for the control at the active position. -/
structure AnswersActive (s : ControlStack) : Prop where
  none : s.controls = [] →
    (s.run .activeKind).2 = .ok (.kind none) ∧ (s.run .activeControl).2 = .ok (.control none) ∧
      (s.run .activeTarget).2 = .error (.control .noCurrent) ∧
      (s.run .activeShares).2 = .error (.control .noCurrent)
  some : s.controls ≠ [] → ∃ (k : ControlKind) (t : Float) (shares : Option (List Float)),
    s.controls[s.active.toNat]? = some ⟨.member k, .member t, shares.map .member⟩ ∧
      (s.run .activeKind).2 = .ok (.kind (some (.member k))) ∧
      (s.run .activeControl).2 = .ok (.control (some ⟨.member k, t, shares.map .flat⟩)) ∧
      (s.run .activeTarget).2 = .ok (.target t) ∧
      (s.run .activeShares).2 = .ok (.shares (shares.map .flat))

theorem activeControl_of_inside {c : Control} (nonneg : 0 ≤ s.active)
    (found : s.controls[s.active.toNat]? = some c) : s.activeControl = .ok (some c) := by
  rw [activeControl, if_neg (Int.not_lt.mpr nonneg), found]

theorem requireActive_of_active {c : Control} (active : s.activeControl = .ok (some c)) :
    s.requireActive = .ok c := by
  rw [requireActive, active]
  rfl

/-- Every control of a stack with a history is one that was added. -/
theorem Follows.exists_eq (h : s.Follows phases history) {n : Nat}
    (inside : n < s.controls.length) :
    ∃ (k : ControlKind) (t : Float) (shares : Option (List Float)),
      s.controls[n]? = some ⟨.member k, .member t, shares.map .member⟩ := by
  have place : n < (ControlCall.additions history).zipIdx.length := h.controls.length_eq ▸ inside
  have added := h.controls.get place inside
  obtain ⟨k, t, shares, same⟩ := added.exists_eq
  exact ⟨k, t, shares, List.getElem?_eq_some_iff.mpr ⟨inside, same⟩⟩

theorem Follows.answersActive (h : s.Follows phases history) : s.AnswersActive := by
  refine ⟨?_, ?_⟩
  · intro none
    have idle : s.activeControl = .ok Option.none := by
      rw [activeControl, if_pos]
      rw [(h.empty none).1]
      decide
    refine ⟨?_, ?_, ?_, ?_⟩
    · rw [run, change, activeKind_of_none idle]
      rfl
    · rw [run, change, idle]
      rfl
    · rw [run, change, requireActive, idle]
      rfl
    · rw [run, change, requireActive, idle]
      rfl
  · intro some
    obtain ⟨nonneg, inside⟩ := h.inside some
    obtain ⟨k, t, shares, found⟩ := h.exists_eq (n := s.active.toNat) (by omega)
    have active := activeControl_of_inside nonneg found
    have required := requireActive_of_active active
    refine ⟨k, t, shares, found, ?_, ?_, ?_, ?_⟩
    · rw [run, change, activeKind_of_member active rfl]
      rfl
    · rw [run, change, active]
      cases shares <;> rfl
    · rw [run, change, required]
      rfl
    · rw [run, change, required]
      cases shares <;> rfl

/-- However calls that check their arguments are mixed, and whichever of them are refused: the
stack is what its history says, a refused call changes nothing, and questions about the active
control are answered for it. -/
theorem runAll_follows_history (phases : Option (Choice Int)) {commands : List ControlCommand}
    (checked : ∀ c ∈ commands, c.Checked) :
    ((empty phases).runAll commands).Follows phases ((empty phases).calls commands) ∧
      ((empty phases).runAll commands).Refuses ∧
      ((empty phases).runAll commands).AnswersActive := by
  have follows := follows_runAll phases checked
  exact ⟨follows, refuses _, follows.answersActive⟩

/-- Calls of every kind on a stack for two phases, some of them refused. -/
def mixedCalls : List ControlCommand :=
  [.activate 0, .add (.member .bhp) (.float 2e7) .null, .stop, .clear,
   .add (.member .thp) (.float 3e6) .null, .add (.member .surfaceRate) (.float 5.0) .null,
   .add (.other (.text "bhp")) (.float 1.0) .null, .add (.member .bhp) .null .null,
   .add (.member .surfaceRate) (.float 5.0) (.list [.float 0.5, .float 0.5]),
   .activate 1, .activate 2, .reopen, .activeTarget]

theorem runAll_follows_history_mixedCalls :
    (∀ c ∈ mixedCalls, c.Checked) ∧
      ((empty (some (.member 2))).runAll mixedCalls).Follows (some (.member 2))
          ((empty (some (.member 2))).calls mixedCalls) ∧
        ((empty (some (.member 2))).runAll mixedCalls).Refuses ∧
          ((empty (some (.member 2))).runAll mixedCalls).AnswersActive := by
  have checked : ∀ c ∈ mixedCalls, c.Checked := by
    simp [mixedCalls, ControlCommand.Checked]
  exact ⟨checked, runAll_follows_history (some (.member 2)) checked⟩

end ControlStack

end Reservoir
