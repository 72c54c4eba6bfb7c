import Reservoir.Journal

/-!
# Calls on an object

A call on an object reads it and writes it, step by step. A step that fails ends the call, and
what was written before stays written.

Such a call may be run on an object of its own, which nothing else refers to. Then only its
`result` counts, the object that it leaves: of a call that fails there is none.
-/

namespace Reservoir

/-- A call on an object of type `σ`: how it leaves the object, and what it reports and gives. -/
def Steps (σ α : Type) : Type := σ → σ × Reported α

namespace Steps

variable {σ τ α β : Type}

/-- An object after a call, with what came of it. -/
def run (p : Steps σ α) (s : σ) : σ × Reported α := p s

/-- A call that has nothing to do with the object. -/
def lift (r : Reported α) : Steps σ α := fun s => (s, r)

/-- A call that has nothing to do with the object, and reports nothing. -/
def ofInput (r : Except InputFault α) : Steps σ α := lift (.ofExcept (r.mapError .input))

/-- A look at the object. -/
def look (f : σ → α) : Steps σ α := fun s => (s, pure (f s))

/-- A change of the object. -/
def write (f : σ → σ) : Steps σ Unit := fun s => (f s, pure ())

/-- One call after another. The second is made only if the first succeeds, on the object as the
first leaves it. -/
def andThen (p : Steps σ α) (f : α → Steps σ β) : Steps σ β := fun s =>
  let (t, r) := p s
  match r.outcome with
  | .error e => (t, ⟨r.journal, .error e⟩)
  | .ok a =>
    let (u, q) := f a t
    (u, ⟨r.journal ++ q.journal, q.outcome⟩)

instance : Monad (Steps σ) where
  pure a := lift (pure a)
  bind := andThen

/-- The object that a call leaves, if it succeeds. -/
def result (p : Steps σ Unit) (s : σ) : Reported σ :=
  let (t, r) := p s
  r.map fun _ => t

@[simp] theorem run_look_bind (f : σ → α) (p : α → Steps σ β) (s : σ) :
    (look f >>= p).run s = (p (f s)).run s := rfl

theorem run_lift_bind_of_error {r : Reported α} {e : Fault} (h : r.outcome = .error e)
    (p : α → Steps σ β) (s : σ) : (lift r >>= p).run s = (s, ⟨r.journal, .error e⟩) := by
  show andThen (lift r) p s = _
  simp only [andThen, lift, h]

theorem run_lift_bind_of_ok {r : Reported α} {a : α} (h : r.outcome = .ok a)
    (p : α → Steps σ β) (s : σ) :
    (lift r >>= p).run s =
      (((p a).run s).1, ⟨r.journal ++ ((p a).run s).2.journal, ((p a).run s).2.outcome⟩) := by
  show andThen (lift r) p s = _
  simp only [andThen, lift, h, run]

@[simp] theorem result_pure (s : σ) : (pure () : Steps σ Unit).result s = pure s := rfl

/-- What is written is written for the calls that follow. -/
@[simp] theorem result_write_bind (f : σ → σ) (p : Unit → Steps σ Unit) (s : σ) :
    (write f >>= p).result s = (p ()).result (f s) := rfl

@[simp] theorem result_look_bind (f : σ → α) (p : α → Steps σ Unit) (s : σ) :
    (look f >>= p).result s = (p (f s)).result s := rfl

/-- The second of two calls is made on the result of the first. -/
theorem result_bind (p : Steps σ Unit) (q : Unit → Steps σ Unit) (s : σ) :
    (p >>= q).result s = p.result s >>= (q ()).result := by
  show result (andThen p q) s = (p.result s).andThen (q ()).result
  simp only [result, andThen, Reported.andThen, Reported.map]
  cases (p s).2.outcome <;> rfl

theorem result_lift_bind (r : Reported α) (p : α → Steps σ Unit) (s : σ) :
    (lift r >>= p).result s = r >>= fun a => (p a).result s := by
  show result (andThen (lift r) p) s = r.andThen _
  simp only [result, andThen, lift, Reported.andThen, Reported.map]
  cases r.outcome <;> rfl

end Steps

end Reservoir
