import Reservoir.Fault

/-!
# Names

A registry remembers what was last made under each name.
-/

namespace Reservoir

/-- Objects by name. -/
structure Registry (α : Type) where
  entries : List (String × α) := []

namespace Registry

variable {α : Type}

/-- What a name stands for. -/
def find? (r : Registry α) (name : String) : Option α :=
  (r.entries.find? (·.1 == name)).map (·.2)

/-- What a name stands for, which must be something. -/
def get (r : Registry α) (name : String) : Except Fault α :=
  match r.find? name with
  | some a => .ok a
  | none => .error (.unbound name)

/-- Entries with the first one under a name replaced, or with a new one at the end. -/
def replace (name : String) (a : α) : List (String × α) → List (String × α)
  | [] => [(name, a)]
  | e :: es => if e.1 = name then (name, a) :: es else e :: replace name a es

/-- A name standing for `a` from now on. -/
def insert (r : Registry α) (name : String) (a : α) : Registry α :=
  ⟨replace name a r.entries⟩

theorem get_eq_ok_iff {r : Registry α} {name : String} {a : α} :
    r.get name = .ok a ↔ r.find? name = some a := by
  unfold get
  cases r.find? name <;> simp

theorem find?_insert (r : Registry α) (name other : String) (a : α) :
    (r.insert name a).find? other = if name = other then some a else r.find? other := by
  obtain ⟨entries⟩ := r
  simp only [find?, insert]
  induction entries with
  | nil => by_cases h : name = other <;> simp [replace, h]
  | cons e es ih =>
      by_cases here : e.1 = name
      · rw [replace, if_pos here]
        by_cases h : name = other <;> simp [here, h]
      · rw [replace, if_neg here]
        by_cases h : e.1 = other
        · have apart : name ≠ other := fun same => here (h.trans same.symm)
          simp [h, apart]
        · simp [h, ih]

/-- Nothing changes when a name stands for `a` already. -/
theorem insert_of_find? {r : Registry α} {name : String} {a : α} (h : r.find? name = some a) :
    r.insert name a = r := by
  obtain ⟨entries⟩ := r
  simp only [find?, insert, mk.injEq] at h ⊢
  induction entries with
  | nil => cases h
  | cons e es ih =>
      by_cases here : e.1 = name
      · rw [List.find?_cons_of_pos (by simp [here])] at h
        rw [replace, if_pos here, ← here, ← Option.some.inj h]
      · rw [List.find?_cons_of_neg (by simp [here])] at h
        rw [replace, if_neg here, ih h]

@[simp] theorem find?_insert_self (r : Registry α) (name : String) (a : α) :
    (r.insert name a).find? name = some a := by
  simp [find?_insert]

end Registry

end Reservoir
