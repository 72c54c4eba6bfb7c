import Reservoir.Proofs.Session.Separate

/-!
# What a command leaves as it is

A command writes through the arrays of one state, and gives new arrays to that state only. All
other states keep their arrays, and these hold what they held. After an accepted command every
array of a state is the array that the same field had before, or a new one.

A command that is refused leaves the whole session as it was, except that a record may be refused
by an array of the state that it is read into, after the arrays before it have been written.
-/

namespace Reservoir

namespace Command

/-- The state that a command makes or writes. -/
def target? : Command → Option String
  | .seed id .. => some id
  | .reseed name .. => some name
  | .plain (.makeState id _) => some id
  | .plain (.poke name ..) => some name
  | .plain (.pokeRate name ..) => some name
  | .plain (.replace name ..) => some name
  | .plain (.unpack name _) => some name
  | .plain (.unpackFrom name _) => some name
  | _ => none

/-- The state that a command reads a record into. -/
def readsInto? : Command → Option String
  | .plain (.unpack name _) => some name
  | .plain (.unpackFrom name _) => some name
  | _ => none

/-- A command gives a field of a state a new array, unless it is refused. -/
def Renews (name : String) (f : Field) : Command → Prop
  | .seed id .. => id = name
  | .reseed other .. => other = name
  | .plain (.makeState id _) => id = name
  | .plain (.replace other g _) => other = name ∧ g = f
  | _ => False

/-- A command binds a name to a held array. -/
def Holds (id : String) : Command → Prop
  | .plain (.hold _ _ other) => other = id
  | _ => False

variable {name : String} {f : Field} {c : Command}

theorem Renews.readsInto?_eq_none (h : c.Renews name f) : c.readsInto? = none := by
  cases c with
  | seed | reseed => rfl
  | plain command =>
      cases command with
      | makeState | replace => rfl
      | _ => exact h.elim

theorem Renews.not_holds (h : c.Renews name f) (id : String) : ¬c.Holds id := by
  cases c with
  | seed | reseed => exact not_false
  | plain command =>
      cases command with
      | makeState | replace => exact not_false
      | _ => exact h.elim

end Command

namespace Session

variable {s t : Session} {c : Command} {name : String} {f : Field}

namespace Change

/-- Other states keep their arrays. -/
theorem find?_states (change : s.Change c t) {other : String} (ne : c.target? ≠ some other) :
    t.states.find? other = s.states.find? other := by
  have inserted : ∀ {id : String} (ref : StateRef), id ≠ other →
      (s.states.insert id ref).find? other = s.states.find? other := by
    intro id ref ne
    rw [Registry.find?_insert, if_neg ne]
  cases change with
  | seed | reseed | makeState | replace => exact inserted _ fun same => ne (congrArg some same)
  | makeWells | addWell | control | setRole | setPhases | hold | ask => rfl
  | poke | pokeRate | unpack | unpackFrom => rfl

theorem find?_handles (change : s.Change c t) {id : String} (h : ¬c.Holds id) :
    t.handles.find? id = s.handles.find? id := by
  cases change with
  | @hold name other field ref bound =>
      have ne : other ≠ id := h
      rw [Registry.find?_insert, if_neg ne]
  | _ => rfl

theorem size_le (change : s.Change c t) : s.heap.size ≤ t.heap.size := by
  cases change with
  | seed | reseed | makeState =>
      exact Nat.le_trans (Nat.le_add_right _ 6) (Nat.le_of_eq (Heap.size_allocAll _ _).symm)
  | replace => exact Nat.le_trans (Nat.le_succ _) (Nat.le_of_eq (Heap.size_alloc _ _).symm)
  | makeWells | addWell | control | setRole | setPhases | hold | ask => exact Nat.le_refl _
  | poke | pokeRate => exact Nat.le_of_eq (Heap.size_write _ _ _).symm
  | unpack | unpackFrom => exact Nat.le_of_eq (Heap.size_writeFields _ _ _ _).symm

/-- An array that the state in question does not have holds what it held. -/
theorem read_eq (change : s.Change c t) {a : Handle} (old : a < s.heap.size)
    (apart : ∀ name ref, c.target? = some name → s.states.find? name = some ref →
      ∀ f, ref.toArrays.get f ≠ a) : t.heap.read a = s.heap.read a := by
  cases change with
  | seed | reseed | makeState => exact Heap.read_allocAll_of_lt _ old
  | replace => exact Heap.read_alloc_of_lt _ old
  | makeWells | addWell | control | setRole | setPhases | hold | ask => rfl
  | poke bound => exact Heap.read_write_of_ne _ (apart _ _ rfl bound _).symm
  | pokeRate bound => exact Heap.read_write_of_ne _ (apart _ _ rfl bound .wellRates).symm
  | unpack bound | unpackFrom bound =>
      exact Heap.read_writeFields_of_forall_ne fun f _ => (apart _ _ rfl bound f).symm

/-- A field keeps its array, unless it is given a new one. -/
theorem array_eq (change : s.Change c t) (kept : ¬c.Renews name f) {ref : StateRef}
    (bound : s.states.find? name = some ref) :
    ∃ ref', t.states.find? name = some ref' ∧ ref'.toArrays.get f = ref.toArrays.get f := by
  by_cases target : c.target? = some name
  · cases change with
    | seed | reseed | makeState => exact absurd (Option.some.inj target) kept
    | @replace other g values found b here read =>
        obtain rfl : other = name := Option.some.inj target
        cases here.symm.trans bound
        refine ⟨_, Registry.find?_insert_self _ _ _, Arrays.get_set_of_ne _ _ ?_⟩
        exact fun same => kept ⟨rfl, same.symm⟩
    | makeWells | addWell | control | setRole | setPhases | hold => exact ⟨ref, bound, rfl⟩
    | poke | pokeRate | unpack | unpackFrom | ask => exact ⟨ref, bound, rfl⟩
  · exact ⟨ref, (change.find?_states target).trans bound, rfl⟩

/-- A field that is given an array is given a new one. -/
theorem array_new (change : s.Change c t) (renews : c.Renews name f) {ref' : StateRef}
    (bound : t.states.find? name = some ref') : s.heap.size ≤ ref'.toArrays.get f := by
  have created : ∀ {id : String} {state : WellState}, id = name →
      (s.bindState id state).states.find? name = some ref' →
        s.heap.size ≤ ref'.toArrays.get f := by
    rintro id state rfl bound
    cases (Registry.find?_insert_self _ _ _).symm.trans bound
    exact Heap.size_le_get_allocAll s.heap state.toArrays f
  cases change with
  | seed | reseed | makeState => exact created renews bound
  | @replace other g values found b here read =>
      obtain ⟨rfl, rfl⟩ : other = name ∧ g = f := renews
      cases (Registry.find?_insert_self _ _ _).symm.trans bound
      exact Nat.le_of_eq (Arrays.get_set_self _ _ _).symm
  | makeWells | addWell | control | setRole | setPhases | hold => exact renews.elim
  | poke | pokeRate | unpack | unpackFrom => exact renews.elim
  | @ask command asks =>
      cases command with
      | makeState | replace => exact asks.elim
      | _ => exact renews.elim

/-- A new array is no other one. -/
theorem read_eq_of_renews (change : s.Change c t) (renews : c.Renews name f) {a : Handle}
    (old : a < s.heap.size) : t.heap.read a = s.heap.read a := by
  cases change with
  | seed | reseed | makeState => exact Heap.read_allocAll_of_lt _ old
  | replace => exact Heap.read_alloc_of_lt _ old
  | makeWells | addWell | control | setRole | setPhases | hold | ask => rfl
  | poke | pokeRate | unpack | unpackFrom => exact renews.elim

/-- An array of a state is the one that its field had before, or a new one. -/
theorem array_cases (change : s.Change c t) {ref' : StateRef}
    (bound : t.states.find? name = some ref') (f : Field) :
    (∃ ref, s.states.find? name = some ref ∧ ref.toArrays.get f = ref'.toArrays.get f) ∨
      s.heap.size ≤ ref'.toArrays.get f := by
  by_cases renews : c.Renews name f
  · exact .inr (change.array_new renews bound)
  · cases before : s.states.find? name with
    | some ref =>
        obtain ⟨found, after, same⟩ := change.array_eq renews before
        cases after.symm.trans bound
        exact .inl ⟨ref, rfl, same.symm⟩
    | none =>
        -- A state that was not there is made, with new arrays in all of its fields.
        exfalso
        by_cases target : c.target? = some name
        · cases change with
          | seed | reseed | makeState => exact renews (Option.some.inj target)
          | replace here | poke here | pokeRate here | unpack here | unpackFrom here =>
              rw [Option.some.inj target] at here
              cases before.symm.trans here
          | makeWells | addWell | control | setRole | setPhases | hold => cases target
          | ask => cases before.symm.trans bound
        · cases before.symm.trans ((change.find?_states target).symm.trans bound)

end Change

/-- Only reading a record may fail after the session has changed. -/
theorem exists_reply_of_answer {command : PlainCommand} {reply : Except Fault Reply}
    (reads : (Command.plain command).readsInto? = none)
    (h : s.answer command = .ok (t, reply)) : ∃ r, reply = .ok r := by
  cases command with
  | unpack | unpackFrom => cases reads
  | makeWells | layout | setPhases | hold =>
      obtain ⟨_, _, h⟩ := bind_eq_ok_iff.mp h
      cases h
      exact ⟨_, rfl⟩
  | addWell | showWell | setRole | showState | poke | replace | held | offsets | pack =>
      obtain ⟨_, _, h⟩ := bind_eq_ok_iff.mp h
      obtain ⟨_, _, h⟩ := bind_eq_ok_iff.mp h
      cases h
      exact ⟨_, rfl⟩
  | firstCell | makeState | pokeRate | ratesByWell | table =>
      obtain ⟨_, _, h⟩ := bind_eq_ok_iff.mp h
      obtain ⟨_, _, h⟩ := bind_eq_ok_iff.mp h
      obtain ⟨_, _, h⟩ := bind_eq_ok_iff.mp h
      cases h
      exact ⟨_, rfl⟩
  | control =>
      obtain ⟨_, _, h⟩ := bind_eq_ok_iff.mp h
      obtain ⟨_, _, h⟩ := bind_eq_ok_iff.mp h
      obtain ⟨_, _, h⟩ := bind_eq_ok_iff.mp h
      obtain ⟨_, _, h⟩ := bind_eq_ok_iff.mp h
      cases h
      exact ⟨_, rfl⟩
  | chart =>
      obtain ⟨_, _, h⟩ := bind_eq_ok_iff.mp h
      obtain ⟨_, _, h⟩ := bind_eq_ok_iff.mp h
      obtain ⟨_, _, h⟩ := bind_eq_ok_iff.mp h
      obtain ⟨_, _, h⟩ := bind_eq_ok_iff.mp h
      obtain ⟨_, _, h⟩ := bind_eq_ok_iff.mp h
      cases h
      exact ⟨_, rfl⟩

theorem allOrNothing_of_readsInto?_eq_none (reads : c.readsInto? = none) : s.AllOrNothing c := by
  cases c with
  | seed => exact s.allOrNothing_seed ..
  | reseed => exact s.allOrNothing_reseed ..
  | plain command =>
      cases performed : (s.perform (.plain command)).outcome with
      | error e => exact .inl ⟨e, outcome_step_of_error performed, step_of_error performed⟩
      | ok result =>
          obtain ⟨t, reply⟩ := result
          obtain ⟨r, rfl⟩ := exists_reply_of_answer reads performed
          obtain ⟨after, answered⟩ := step_of_ok performed
          exact .inr ⟨r, answered, after.symm ▸ change_of_answer performed⟩

/-- A command that reads no record and is refused leaves the session as it was. -/
theorem step_eq_of_error {e : Fault} (reads : c.readsInto? = none)
    (failed : (s.step c).2.outcome = .error e) : (s.step c).1 = s :=
  (allOrNothing_of_readsInto?_eq_none reads).eq_of_error failed

/-- A command that is answered is accepted. -/
theorem change_of_answered {reply : Reply} (answered : (s.step c).2.outcome = .ok reply) :
    s.Change c (s.step c).1 := by
  cases c with
  | seed => exact (s.allOrNothing_seed ..).change_of_ok answered
  | reseed => exact (s.allOrNothing_reseed ..).change_of_ok answered
  | plain command =>
      cases performed : (s.perform (.plain command)).outcome with
      | error e => cases (outcome_step_of_error performed).symm.trans answered
      | ok result =>
          rw [(step_of_ok performed).1]
          exact change_of_answer performed

end Session

end Reservoir
