import Reservoir.Fault

/-!
# The journal of a call

A call reports what it has done, also when it fails later: events, each with a level and a
template for its arguments, and warnings, which are finished texts. Journals of successive
calls are joined by `++`.
-/

namespace Reservoir

/-- The part of the library an event comes from. -/
inductive Topic where
  | grid
  | columns
  | state
deriving DecidableEq, Repr

inductive Level where
  | debug
  | info
deriving DecidableEq, Repr

/-- Something a call has done. -/
inductive Event where
  | gridBuilt (nx ny nz active : Nat)
  | columnsExtracted (columns cells : Nat)
  | wellInitialized (name role mode : String) (bhp thp : Float) (rates : List Float)
  | stateInitialized (wells connections : Nat)

/-- An argument of an event's template. -/
inductive Argument where
  | text (s : String)
  | int (n : Int)
  | float (x : Float)
  | floats (xs : List Float)

namespace Event

def topic : Event → Topic
  | .gridBuilt .. => .grid
  | .columnsExtracted .. => .columns
  | .wellInitialized .. => .state
  | .stateInitialized .. => .state

def level : Event → Level
  | .stateInitialized .. => .info
  | _ => .debug

/-- The text of an event before its arguments are filled in. -/
def template : Event → String
  | .gridBuilt .. => "Grid %dx%dx%d with %d active cells"
  | .columnsExtracted .. => "Extracted %d columns from %d cells"
  | .wellInitialized .. => "Well %s (%s, %s): bhp=%g thp=%g rates=%s"
  | .stateInitialized .. => "Initialized state of %d wells with %d connections"

def arguments : Event → List Argument
  | .gridBuilt nx ny nz active => [.int nx, .int ny, .int nz, .int active]
  | .columnsExtracted columns cells => [.int columns, .int cells]
  | .wellInitialized name role mode bhp thp rates =>
    [.text name, .text role, .text mode, .float bhp, .float thp, .floats rates]
  | .stateInitialized wells connections => [.int wells, .int connections]

end Event

/-- Events and warnings, each in the order they came up. -/
structure Journal where
  events : List Event := []
  warnings : List String := []

namespace Journal

instance : Append Journal :=
  ⟨fun a b => ⟨a.events ++ b.events, a.warnings ++ b.warnings⟩⟩

/-- A journal of one event. -/
def event (e : Event) : Journal := { events := [e] }

@[simp] theorem events_append (a b : Journal) : (a ++ b).events = a.events ++ b.events := rfl

@[simp] theorem warnings_append (a b : Journal) :
    (a ++ b).warnings = a.warnings ++ b.warnings := rfl

@[simp] theorem nil_append (a : Journal) : ({} : Journal) ++ a = a := rfl

@[simp] theorem append_nil (a : Journal) : a ++ ({} : Journal) = a := by
  show Journal.mk (a.events ++ []) (a.warnings ++ []) = a
  simp

theorem append_assoc (a b c : Journal) : a ++ b ++ c = a ++ (b ++ c) := by
  show Journal.mk _ _ = Journal.mk _ _
  simp

end Journal

/-- The result of a call together with its journal. -/
structure Reported (α : Type) where
  journal : Journal
  outcome : Except Fault α

namespace Reported

variable {α β : Type}

/-- A result with nothing to report. -/
def ofExcept (outcome : Except Fault α) : Reported α := ⟨{}, outcome⟩

/-- A call that only reports. -/
def tell (journal : Journal) : Reported Unit := ⟨journal, .ok ()⟩

/-- One call after another: the second runs, and reports, only if the first succeeds. -/
def andThen (r : Reported α) (f : α → Reported β) : Reported β :=
  match r.outcome with
  | .error e => ⟨r.journal, .error e⟩
  | .ok a => ⟨r.journal ++ (f a).journal, (f a).outcome⟩

/-- Another result with the same journal. -/
def map (f : α → β) (r : Reported α) : Reported β := ⟨r.journal, r.outcome.map f⟩

instance : Monad Reported where
  pure a := ofExcept (.ok a)
  bind := andThen

instance : MonadLift (Except Fault) Reported := ⟨ofExcept⟩

theorem bind_def (r : Reported α) (f : α → Reported β) : r >>= f = r.andThen f := rfl

@[simp] theorem andThen_ofExcept_ok (a : α) (f : α → Reported β) :
    (ofExcept (.ok a)).andThen f = f a := by
  simp [ofExcept, andThen]

@[simp] theorem pure_andThen (a : α) (f : α → Reported β) : (pure a : Reported α).andThen f = f a :=
  andThen_ofExcept_ok a f

@[simp] theorem andThen_ofExcept_error (e : Fault) (f : α → Reported β) :
    (ofExcept (.error e)).andThen f = ofExcept (.error e) := rfl

theorem andThen_of_ok {r : Reported α} {a : α} (h : r.outcome = .ok a) (f : α → Reported β) :
    r.andThen f = ⟨r.journal ++ (f a).journal, (f a).outcome⟩ := by
  rw [andThen, h]

theorem andThen_of_error {r : Reported α} {e : Fault} (h : r.outcome = .error e)
    (f : α → Reported β) : r.andThen f = ⟨r.journal, .error e⟩ := by
  rw [andThen, h]

@[simp] theorem journal_map (f : α → β) (r : Reported α) : (r.map f).journal = r.journal := rfl

@[simp] theorem outcome_map (f : α → β) (r : Reported α) :
    (r.map f).outcome = r.outcome.map f := rfl

theorem andThen_assoc {γ : Type} (r : Reported α) (f : α → Reported β) (g : β → Reported γ) :
    (r.andThen f).andThen g = r.andThen fun a => (f a).andThen g := by
  obtain ⟨journal, outcome⟩ := r
  cases outcome with
  | error e => rfl
  | ok a =>
      simp only [andThen]
      cases (f a).outcome with
      | error e => rfl
      | ok b => exact congrArg (Reported.mk · _) (Journal.append_assoc journal _ _)

theorem map_andThen {γ : Type} (f : α → β) (r : Reported α) (g : β → Reported γ) :
    (r.map f).andThen g = r.andThen fun a => g (f a) := by
  simp only [andThen, map]
  cases r.outcome <;> rfl

@[simp] theorem outcome_ofExcept (r : Except Fault α) : (ofExcept r).outcome = r := rfl

@[simp] theorem outcome_tell (j : Journal) : (tell j).outcome = .ok () := rfl

@[simp] theorem outcome_pure (a : α) : (pure a : Reported α).outcome = .ok a := rfl

/-- The outcome of successive calls does not depend on what they report. -/
@[simp] theorem outcome_bind (r : Reported α) (f : α → Reported β) :
    (r >>= f).outcome = r.outcome.bind fun a => (f a).outcome := by
  rw [bind_def, andThen]
  cases r.outcome <;> rfl

end Reported

end Reservoir
