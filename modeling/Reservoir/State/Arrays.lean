/-!
# The arrays of a state

A state has six arrays. `Arrays α` holds one `α` for each of them: their contents, or the
handles under which a session keeps the contents. The restart record holds five of the six,
in the order of `Field.recorded`.
-/

namespace Reservoir

/-- An array of a state. -/
inductive Field where
  /-- Bottom hole pressure of every well. -/
  | bhp
  /-- Tubing head pressure of every well. -/
  | thp
  /-- Temperature of every well. -/
  | temperature
  /-- Rate of every phase of every well, well by well. -/
  | wellRates
  /-- Rate of every connection, well by well. -/
  | perfRates
  /-- Pressure of every connection, well by well. -/
  | perfPress
deriving DecidableEq, Repr

namespace Field

def all : List Field := [.bhp, .thp, .temperature, .wellRates, .perfRates, .perfPress]

theorem mem_all (f : Field) : f ∈ all := by
  cases f <;> decide

/-- The fields of a restart record, in record order. -/
def recorded : List Field := [.bhp, .perfPress, .perfRates, .temperature, .wellRates]

def name : Field → String
  | .bhp => "bhp"
  | .thp => "thp"
  | .temperature => "temperature"
  | .wellRates => "well_rates"
  | .perfRates => "perf_rates"
  | .perfPress => "perf_press"

end Field

/-- One `α` for each array of a state. -/
structure Arrays (α : Type) where
  bhp : α
  thp : α
  temperature : α
  wellRates : α
  perfRates : α
  perfPress : α

namespace Arrays

variable {α β : Type}

def get (a : Arrays α) : Field → α
  | .bhp => a.bhp
  | .thp => a.thp
  | .temperature => a.temperature
  | .wellRates => a.wellRates
  | .perfRates => a.perfRates
  | .perfPress => a.perfPress

def set (a : Arrays α) (f : Field) (x : α) : Arrays α :=
  match f with
  | .bhp => { a with bhp := x }
  | .thp => { a with thp := x }
  | .temperature => { a with temperature := x }
  | .wellRates => { a with wellRates := x }
  | .perfRates => { a with perfRates := x }
  | .perfPress => { a with perfPress := x }

/-- One value for each field. -/
def ofFields (f : Field → α) : Arrays α :=
  { bhp := f .bhp
    thp := f .thp
    temperature := f .temperature
    wellRates := f .wellRates
    perfRates := f .perfRates
    perfPress := f .perfPress }

def map (f : α → β) (a : Arrays α) : Arrays β :=
  ofFields fun field => f (a.get field)

@[simp] theorem get_ofFields (f : Field → α) (field : Field) :
    (ofFields f).get field = f field := by
  cases field <;> rfl

@[simp] theorem get_map (f : α → β) (a : Arrays α) (field : Field) :
    (a.map f).get field = f (a.get field) := by
  simp [map]

@[simp] theorem get_set_self (a : Arrays α) (f : Field) (x : α) : (a.set f x).get f = x := by
  cases f <;> rfl

theorem get_set_of_ne (a : Arrays α) {f g : Field} (x : α) (h : g ≠ f) :
    (a.set f x).get g = a.get g := by
  cases f <;> cases g <;> first | rfl | exact absurd rfl h

theorem ofFields_get (a : Arrays α) : ofFields a.get = a := rfl

theorem ext_get {a b : Arrays α} (h : ∀ f, a.get f = b.get f) : a = b := by
  rw [← ofFields_get a, ← ofFields_get b, funext h]

end Arrays

end Reservoir
