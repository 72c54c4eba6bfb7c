import Reservoir.Proofs.Control.Accepted
import Reservoir.Proofs.Control.Change

/-!
# Stacks that were only changed by checked commands

A stack is `Checked` for a number of phases when all that the checks promise holds: its
controls have a kind, a double for a target and a distribution with one share for each phase,
surface rates do have a distribution, and the active position is -1 or inside the stack.
Commands that check their arguments keep it so, in any order and whether they succeed or
fail.
-/

namespace Reservoir

/-- Commands that check their arguments: all but those that write a field as it is. -/
def ControlCommand.Checked : ControlCommand → Prop
  | .addUnchecked .. | .setActive _ => False
  | _ => True

/-- A number of phases that lets a count of shares pass only if it is `n`. -/
def Choice.Counts (phases : Choice Int) (n : Nat) : Prop :=
  ∀ entries, miscounted entries phases = false → entries = n

/-- A control as the checks let it pass for `n` phases. -/
structure Control.Checked (n : Nat) (c : Control) : Prop where
  kind : ∃ k, c.kind = .member k
  target : ∃ x, c.target = .member x
  shares : ∀ v, c.shares = some v → ∃ values, v = .member values ∧ values.length = n
  surfaceRate : c.kind = .member .surfaceRate → c.shares ≠ none

namespace ControlStack

/-- A stack whose controls are checked for `n` phases. -/
structure Checked (phases : Choice Int) (n : Nat) (s : ControlStack) : Prop where
  phases : s.phases = some phases
  controls : ∀ c ∈ s.controls, c.Checked n
  neg_one_le_active : -1 ≤ s.active
  active_lt_length : s.active < s.controls.length

/-- A control that is accepted is checked. -/
theorem checked_of_readControl {phases : Choice Int} {n : Nat} {kind : Choice ControlKind}
    {target distribution : Datum} {c : Control} (counts : phases.Counts n)
    (h : readControl (some phases) kind target distribution = .ok c) : c.Checked n := by
  obtain ⟨k, shares, t, rfl, given, _, rfl⟩ := readControl_eq_ok_iff.mp h
  refine ⟨⟨k, rfl⟩, ⟨t, rfl⟩, ?_, ?_⟩
  · intro v present
    cases given with
    | none => cases present
    | some block accepted =>
        cases present
        exact ⟨_, rfl, counts _ (accepted.counted phases rfl)⟩
  · intro surface
    cases given with
    | none needless =>
        cases surface
        exact absurd rfl needless
    | some => exact nofun

variable {phases : Choice Int} {n : Nat} {s t : ControlStack}

theorem checked_empty (phases : Choice Int) (n : Nat) : (empty (some phases)).Checked phases n :=
  ⟨rfl, nofun, Int.le_refl _, Int.negSucc_lt_zero 0⟩

theorem Checked.push {c : Control} (hs : s.Checked phases n) (hc : c.Checked n) :
    (s.push c).Checked phases n := by
  have lower := hs.neg_one_le_active
  have upper := hs.active_lt_length
  refine ⟨hs.phases, ?_, ?_, ?_⟩
  · intro d hd
    rcases List.mem_append.mp hd with hd | hd
    · exact hs.controls d hd
    · rw [List.mem_singleton.mp hd]
      exact hc
  · simp only [ControlStack.push]
    split <;> omega
  · simp only [ControlStack.push, List.length_append, List.length_singleton]
    split <;> omega

/-- A command that checks its arguments keeps a stack checked. -/
theorem Checked.change {command : ControlCommand} (hs : s.Checked phases n)
    (counts : phases.Counts n) (checked : command.Checked) (h : s.Change command t) :
    t.Checked phases n := by
  cases h with
  | add read =>
      rw [hs.phases] at read
      exact hs.push (checked_of_readControl counts read)
  | addUnchecked => exact checked.elim
  | setActive => exact checked.elim
  | activate nonneg inside =>
      exact ⟨hs.phases, hs.controls, Int.le_trans (by decide) nonneg, inside⟩
  | clear => exact ⟨hs.phases, nofun, Int.le_refl _, Int.negSucc_lt_zero 0⟩
  | stop => exact ⟨hs.phases, hs.controls, hs.neg_one_le_active, hs.active_lt_length⟩
  | reopen => exact ⟨hs.phases, hs.controls, hs.neg_one_le_active, hs.active_lt_length⟩
  | ask => exact hs

/-- The active position of a checked stack is -1 or that of a control. -/
theorem Checked.activeControl_eq (h : s.Checked phases n) :
    s.activeControl = .ok none ∨ ∃ c, c.Checked n ∧ s.activeControl = .ok (some c) := by
  have inside := h.active_lt_length
  rw [activeControl]
  by_cases active : s.active < 0
  · exact .inl (if_pos active)
  · have place : s.active.toNat < s.controls.length := by omega
    rw [if_neg active, List.getElem?_eq_getElem place]
    exact .inr ⟨_, h.controls _ (List.getElem_mem place), rfl⟩

theorem activeKind_of_none (h : s.activeControl = .ok none) : s.activeKind = .ok none := by
  rw [activeKind, h]
  rfl

theorem activeKind_of_member {c : Control} {k : ControlKind}
    (h : s.activeControl = .ok (some c)) (kind : c.kind = .member k) :
    s.activeKind = .ok (some (.member k)) := by
  obtain ⟨_, target, shares⟩ := c
  cases kind
  rw [activeKind, h]
  rfl

end ControlStack

end Reservoir
