import Reservoir.Proofs.Session.Frame
import Reservoir.Proofs.Session.Restart

/-!
# References to the arrays of states

Whoever holds the array of a field sees what is written through the field: elements, rates by
well, and records. This lasts until the field is given a new array, by making the state anew or
by replacing the field. From then on the held array belongs to no state, and nothing writes it.

The invariants are `Shares`, a held array that is still the one of its field, and `Detached`, a
held array that no state has. A step keeps the first or turns it into the second, and keeps the
second.
-/

namespace Reservoir

namespace WellState

variable {v : WellState} {wells width : Nat}

/-- The rows of the rates by well make up all rates. There is an entry for each phase in a row,
unless the number of phases is negative. -/
theorem mul_width_of_rateWidth (size : v.size? = .ok wells) (rates : v.rateWidth = .ok width) :
    wells * width = v.wellRates.entries.length ∧ (0 ≤ v.phases → (width : Int) = v.phases) := by
  rw [rateWidth, size] at rates
  change rowLength v.wellRates.entries.length wells v.phases = .ok width at rates
  rw [rowLength] at rates
  split at rates
  · next counted =>
    split at rates
    · cases rates
    · next count =>
      split at rates
      · cases rates
      · cases rates
        exact ⟨not_not.mp count, fun _ => Int.toNat_of_nonneg counted⟩
  · next negative =>
    split at rates
    · next whole =>
      cases rates
      exact ⟨Nat.mul_div_cancel' (Nat.dvd_of_mod_eq_zero whole.2),
        fun counted => absurd counted negative⟩
    · cases rates

theorem ratePlace_eq (size : v.size? = .ok wells) (rates : v.rateWidth = .ok width) (w p : Int) :
    v.ratePlace w p = match place? wells w, place? width p with
      | some row, some column => .ok (row * width + column)
      | _, _ => .error .noPosition := by
  rw [ratePlace, size, rates]
  rfl

end WellState

namespace Session

/-- What the array under a name for held arrays holds now. -/
def reference? (s : Session) (id : String) : Option (Block Float) :=
  (s.handles.find? id).map s.heap.read

/-- What a field of a state holds now. -/
def field? (s : Session) (name : String) (f : Field) : Option (Block Float) :=
  (s.states.find? name).map fun ref => (ref.view s.heap).toArrays.get f

/-- A command gives a field of a state a new array. -/
def GivesArray (s : Session) (name : String) (f : Field) (c : Command) : Prop :=
  c.Renews name f ∧ ∃ reply, (s.step c).2.outcome = .ok reply

/-- No command of a list gives a field of a state a new array. -/
def KeepsArray (s : Session) (name : String) (f : Field) : List Command → Prop
  | [] => True
  | c :: cs => ¬s.GivesArray name f c ∧ (s.step c).1.KeepsArray name f cs

/-- A held array is the one that a field of a state has. -/
structure Shares (s : Session) (id name : String) (f : Field) (a : Handle) : Prop where
  held : s.handles.find? id = some a
  own : ∃ ref, s.states.find? name = some ref ∧ ref.toArrays.get f = a

/-- No state has a held array. -/
structure Detached (s : Session) (id : String) (a : Handle) : Prop where
  held : s.handles.find? id = some a
  old : a < s.heap.size
  apart : ∀ name ref, s.states.find? name = some ref → ∀ f, ref.toArrays.get f ≠ a

variable {s t : Session} {id name : String} {f : Field} {a : Handle} {c : Command}
  {ref : StateRef}

theorem field?_of_bound (bound : s.states.find? name = some ref) (f : Field) :
    s.field? name f = some (s.heap.read (ref.toArrays.get f)) := by
  rw [field?, bound, Option.map_some]
  exact congrArg some (Arrays.get_map _ _ _)

theorem reference?_of_held (held : s.handles.find? id = some a) :
    s.reference? id = some (s.heap.read a) := by
  rw [reference?, held, Option.map_some]

theorem Shares.field? (h : s.Shares id name f a) : s.field? name f = some (s.heap.read a) := by
  obtain ⟨ref, bound, rfl⟩ := h.own
  exact field?_of_bound bound f

/-- A change that gives the field no new array leaves the held array to the field. -/
theorem Shares.change (h : s.Shares id name f a) (change : s.Change c t) (other : ¬c.Holds id)
    (kept : ¬c.Renews name f) : t.Shares id name f a := by
  obtain ⟨ref, bound, rfl⟩ := h.own
  exact ⟨(change.find?_handles other).trans h.held, change.array_eq kept bound⟩

theorem Shares.step (h : s.Shares id name f a) (other : ¬c.Holds id)
    (kept : ¬s.GivesArray name f c) : (s.step c).1.Shares id name f a := by
  by_cases renews : c.Renews name f
  · cases outcome : (s.step c).2.outcome with
    | ok reply => exact absurd ⟨renews, reply, outcome⟩ kept
    | error e =>
        rw [step_eq_of_error renews.readsInto?_eq_none outcome]
        exact h
  · rcases step_cases s c with same | change
    · rw [same]
      exact h
    · exact h.change change other renews

theorem Shares.run {cs : List Command} (h : s.Shares id name f a) (other : ∀ c ∈ cs, ¬c.Holds id)
    (kept : s.KeepsArray name f cs) : (s.run cs).Shares id name f a := by
  induction cs generalizing s with
  | nil => exact h
  | cons c cs ih =>
      rw [run_cons]
      exact ih (h.step (other c List.mem_cons_self) kept.1)
        (fun d hd => other d (List.mem_cons_of_mem c hd)) kept.2

/-- A field that is given a new array leaves the held one to nobody, as it was. -/
theorem Shares.detached (h : s.Shares id name f a) (separate : s.Separate)
    (given : s.GivesArray name f c) :
    (s.step c).1.Detached id a ∧ (s.step c).1.heap.read a = s.heap.read a := by
  obtain ⟨renews, reply, answered⟩ := given
  have change := change_of_answered answered
  obtain ⟨ref, bound, rfl⟩ := h.own
  have old := separate.allocated name ref bound f
  refine ⟨⟨(change.find?_handles (renews.not_holds id)).trans h.held,
    Nat.lt_of_lt_of_le old change.size_le, ?_⟩, ?_⟩
  · intro other ref' bound' g same
    -- An old array is still with its field, and this field has a new one.
    rcases change.array_cases bound' g with ⟨before, here, own⟩ | new
    · obtain ⟨rfl, rfl⟩ := separate.apart other before name ref here bound g f (own.trans same)
      exact Nat.not_lt.mpr (change.array_new renews bound') (same ▸ old)
    · exact Nat.not_lt.mpr new (same ▸ old)
  · exact change.read_eq_of_renews renews old

/-- No step writes an array that no state has, or gives it to a state. -/
theorem Detached.step (h : s.Detached id a) (other : ¬c.Holds id) :
    (s.step c).1.Detached id a ∧ (s.step c).1.heap.read a = s.heap.read a := by
  rcases step_cases s c with same | change
  · rw [same]
    exact ⟨h, rfl⟩
  · refine ⟨⟨(change.find?_handles other).trans h.held,
      Nat.lt_of_lt_of_le h.old change.size_le, ?_⟩,
      change.read_eq h.old fun name ref _ bound => h.apart name ref bound⟩
    intro name ref' bound g same
    rcases change.array_cases bound g with ⟨ref, before, own⟩ | new
    · exact h.apart name ref before g (own.trans same)
    · exact Nat.not_lt.mpr new (same ▸ h.old)

theorem Detached.run {cs : List Command} (h : s.Detached id a) (other : ∀ c ∈ cs, ¬c.Holds id) :
    (s.run cs).Detached id a ∧ (s.run cs).heap.read a = s.heap.read a := by
  induction cs generalizing s with
  | nil => exact ⟨h, rfl⟩
  | cons c cs ih =>
      obtain ⟨detached, same⟩ := h.step (other c List.mem_cons_self)
      obtain ⟨after, kept⟩ := ih detached fun d hd => other d (List.mem_cons_of_mem c hd)
      exact ⟨after, kept.trans same⟩

/-- Holding the array of a field. -/
theorem shares_hold (bound : s.states.find? name = some ref) (f : Field) (id : String) :
    (s.step (.plain (.hold name f id))).1.Shares id name f (ref.toArrays.get f) := by
  have performed : (s.perform (.plain (.hold name f id))).outcome =
      .ok ({ s with handles := s.handles.insert id (ref.toArrays.get f) }, .ok .done) := by
    simp only [perform, Reported.outcome_ofExcept, answer, Registry.get_eq_ok_iff.mpr bound, bind,
      Except.bind, pure, Except.pure]
  rw [(step_of_ok performed).1]
  exact ⟨Registry.find?_insert_self _ _ _, ref, bound, rfl⟩

/-- A reference to the array of a field of a state, held under a name. As long as the field is
given no new array, what is seen through the reference is what the field holds. From the command
on that gives the field a new array, it is what it was before. -/
structure Refers (s : Session) (id name : String) (f : Field) : Prop where
  seen : ∀ cs, (∀ c ∈ cs, ¬c.Holds id) → s.KeepsArray name f cs →
    ∃ b, (s.run cs).reference? id = some b ∧ (s.run cs).field? name f = some b
  kept : ∀ cs c rest, (∀ d ∈ cs ++ c :: rest, ¬d.Holds id) → s.KeepsArray name f cs →
    (s.run cs).GivesArray name f c →
      (s.run (cs ++ c :: rest)).reference? id = (s.run cs).reference? id

theorem run_append (s : Session) (cs ds : List Command) :
    s.run (cs ++ ds) = (s.run cs).run ds :=
  List.foldl_append

theorem Shares.refers (h : s.Shares id name f a) (separate : s.Separate) :
    s.Refers id name f := by
  refine ⟨?_, ?_⟩
  · intro cs other kept
    have shares := h.run other kept
    exact ⟨_, reference?_of_held shares.held, shares.field?⟩
  · intro cs c rest other kept given
    have shares := h.run (fun d hd => other d (List.mem_append_left _ hd)) kept
    obtain ⟨detached, same⟩ := shares.detached (separate.run cs) given
    obtain ⟨after, kept⟩ := detached.run fun d hd =>
      other d (List.mem_append_right _ (List.mem_cons_of_mem c hd))
    rw [run_append, run_cons, reference?_of_held after.held, reference?_of_held shares.held, kept,
      same]

section Writes

/-- Reading a record into a state writes the values of some record. -/
theorem exists_record_of_change (reads : c.readsInto? = some name) (change : s.Change c t) :
    ∃ command record, c = .plain command ∧ s.answer command = s.unpack name record := by
  cases change with
  | unpack bound read unpacked =>
      cases reads
      exact ⟨_, _, rfl, answer_unpack bound read⟩
  | unpackFrom bound found packed unpacked =>
      cases reads
      exact ⟨_, _, rfl, answer_unpackFrom_of_pack bound found packed⟩
  | @ask command asks =>
      cases command with
      | unpack | unpackFrom => exact asks.elim
      | _ => cases reads
  | _ => cases reads

/-- A record that is refused by a state leaves the session as it was, if the recorded arrays of
that state are plain lists. The one beside them needs a length for the state to be shown. -/
theorem step_eq_of_unpack_refused (separate : s.Separate) (bound : s.states.find? name = some ref)
    (plain : (ref.view s.heap).RecordPlain) {n : Nat}
    (shown : (ref.view s.heap).thp.length? = .ok n) {command : PlainCommand} {record : List Float}
    (answer : s.answer command = s.unpack name record) {e : Fault}
    (refused : (s.step (.plain command)).2.outcome = .error e) :
    (s.step (.plain command)).1 = s := by
  by_cases length : record.length = (ref.view s.heap).recordLength
  · -- A record that fits is read, and the state is shown.
    obtain ⟨state, unpacked, settings, phases, recordPlain, kept, -⟩ :=
      WellState.unpack_of_recordPlain plain length
    have after := separate.view_writeFields bound settings phases (kept .thp (by decide))
    have lengths : ∀ f, ∃ n, (state.toArrays.get f).length? = .ok n := by
      intro f
      by_cases recorded : f ∈ Field.recorded
      · exact ⟨_, WellState.length?_of_flat (recordPlain f recorded)⟩
      · rw [kept f recorded]
        cases f with
        | thp => exact ⟨n, shown⟩
        | _ => exact absurd (by decide) recorded
    obtain ⟨v, view⟩ := WellState.exists_view_of_length? lengths
    have unpack : s.unpack name record = .ok
        ({ s with heap := s.heap.writeFields Field.recorded ref.toArrays state.toArrays },
          .ok (.state v)) := by
      rw [Session.unpack, Registry.get_eq_ok_iff.mpr bound]
      simp only [bind, Except.bind, unpacked, after, view]
      rfl
    have performed : (s.perform (.plain command)).outcome = .ok (_, .ok (.state v)) :=
      answer.trans unpack
    cases (step_of_ok performed).2.symm.trans refused
  · have performed : (s.perform (.plain command)).outcome = .error _ :=
      answer.trans (unpack_of_length_ne bound plain length)
    exact step_of_error performed

/-- A command that is refused leaves the session as it was, if the recorded arrays are plain lists
that it reads a record into. -/
theorem step_eq_of_refused (separate : s.Separate)
    (plain : ∀ name ref, c.readsInto? = some name → s.states.find? name = some ref →
      (ref.view s.heap).RecordPlain ∧ ∃ n, (ref.view s.heap).thp.length? = .ok n)
    {e : Fault} (refused : (s.step c).2.outcome = .error e) : (s.step c).1 = s := by
  cases reads : c.readsInto? with
  | none => exact step_eq_of_error reads refused
  | some name =>
      rcases step_cases s c with same | change
      · exact same
      · obtain ⟨command, record, rfl, answer⟩ := exists_record_of_change reads change
        cases found : s.states.find? name with
        | none =>
            have unbound : s.answer command = .error (.unbound name) := by
              rw [answer, unpack, Registry.get, found]
              rfl
            exact step_of_error unbound
        | some ref =>
            obtain ⟨recordPlain, n, shown⟩ := plain name ref reads found
            exact step_eq_of_unpack_refused separate found recordPlain shown answer refused

/-- Other states hold what they held. -/
theorem field?_step_of_ne (separate : s.Separate) (ne : c.target? ≠ some name) (f : Field) :
    (s.step c).1.field? name f = s.field? name f := by
  rcases step_cases s c with same | change
  · rw [same]
  · have states := change.find?_states ne
    cases found : s.states.find? name with
    | none =>
        rw [field?, field?, states, found]
        rfl
    | some ref =>
        rw [field?_of_bound (states.trans found), field?_of_bound found]
        refine congrArg some (change.read_eq (separate.allocated name ref found f) ?_)
        intro other ref' target bound g same
        exact ne (target.trans (congrArg some
          (separate.apart other ref' name ref bound found g f same).1))

/-- An element that can be written into a field is what the field holds then. -/
theorem step_poke (separate : s.Separate) (bound : s.states.find? name = some ref) {index : Int}
    {value : Datum} {b : Block Float}
    (written : value.writeRow (s.heap.read (ref.toArrays.get f)) index = .ok b) :
    (s.step (.plain (.poke name f index value))).2.outcome = .ok .done ∧
      (s.step (.plain (.poke name f index value))).1.field? name f = some b := by
  have performed : (s.perform (.plain (.poke name f index value))).outcome =
      .ok ({ s with heap := s.heap.write (ref.toArrays.get f) b }, .ok .done) := by
    simp only [perform, Reported.outcome_ofExcept, answer, poke,
      Registry.get_eq_ok_iff.mpr bound, written, Except.mapError, bind, Except.bind, pure,
      Except.pure]
  obtain ⟨after, outcome⟩ := step_of_ok performed
  have kept : (s.step (.plain (.poke name f index value))).1.states.find? name = some ref := by
    rw [after]
    exact bound
  refine ⟨outcome, ?_⟩
  rw [field?_of_bound kept, after]
  exact congrArg some (Heap.read_write_self b (separate.allocated name ref bound f))

/-- One rate was written, and nothing else. -/
structure RateWritten (s t : Session) (ref : StateRef) (n : Nat) (x : Float) : Prop where
  inside : n < (s.heap.read ref.wellRates).entries.length
  written : t.heap.read ref.wellRates =
    (s.heap.read ref.wellRates).withEntries ((s.heap.read ref.wellRates).entries.set n x)
  others : ∀ a, a ≠ ref.wellRates → t.heap.read a = s.heap.read a
  states : t.states = s.states
  handles : t.handles = s.handles

/-- Rates of a state are written by well and phase, both counted from either end, if there are
such a well and phase. If not, the session is left as it was. -/
structure WritesRates (s : Session) (name : String) (ref : StateRef) (wells width : Nat) :
    Prop where
  width_eq : 0 ≤ ref.phases → (width : Int) = ref.phases
  inside : ∀ (w p : Int) (row column : Nat) (value : Datum) (x : Float),
    place? wells w = some row → place? width p = some column → value.entry = .ok x →
      (s.step (.plain (.pokeRate name w p value))).2.outcome = .ok .done ∧
        s.RateWritten (s.step (.plain (.pokeRate name w p value))).1 ref (row * width + column) x
  outside : ∀ (w p : Int) (value : Datum), place? wells w = none ∨ place? width p = none →
    (s.step (.plain (.pokeRate name w p value))).2.outcome = .error (.input .noPosition) ∧
      (s.step (.plain (.pokeRate name w p value))).1 = s

theorem writesRates (separate : s.Separate) (bound : s.states.find? name = some ref)
    {wells width : Nat} (size : (ref.view s.heap).size? = .ok wells)
    (rates : (ref.view s.heap).rateWidth = .ok width) : s.WritesRates name ref wells width := by
  obtain ⟨count, counted⟩ := WellState.mul_width_of_rateWidth size rates
  refine ⟨counted, ?_, ?_⟩
  · intro w p row column value x at_row at_column read
    have place : (ref.view s.heap).ratePlace w p = .ok (row * width + column) := by
      rw [WellState.ratePlace_eq size rates, at_row, at_column]
    have performed : (s.perform (.plain (.pokeRate name w p value))).outcome =
        .ok ({ s with heap := s.heap.write ref.wellRates ((s.heap.read ref.wellRates).withEntries
          ((s.heap.read ref.wellRates).entries.set (row * width + column) x)) }, .ok .done) := by
      simp only [perform, Reported.outcome_ofExcept, answer, pokeRate,
        Registry.get_eq_ok_iff.mpr bound, place, read, Except.mapError, bind, Except.bind, pure,
        Except.pure]
    obtain ⟨after, outcome⟩ := step_of_ok performed
    have inside : row * width + column < wells * width := by
      have below : (row + 1) * width ≤ wells * width := Nat.mul_le_mul_right _ (place?_lt at_row)
      have less := place?_lt at_column
      rw [Nat.succ_mul] at below
      omega
    rw [count] at inside
    rw [after]
    exact ⟨outcome, inside,
      Heap.read_write_self _ (separate.allocated name ref bound .wellRates),
      fun a other => Heap.read_write_of_ne _ other, rfl, rfl⟩
  · intro w p value outside
    have place : (ref.view s.heap).ratePlace w p = .error .noPosition := by
      rw [WellState.ratePlace_eq size rates]
      split
      · next at_row at_column => simp [at_row, at_column] at outside
      · rfl
    have performed : (s.perform (.plain (.pokeRate name w p value))).outcome =
        .error (.input .noPosition) := by
      simp only [perform, Reported.outcome_ofExcept, answer, pokeRate,
        Registry.get_eq_ok_iff.mpr bound, place, Except.mapError, bind, Except.bind]
    exact ⟨outcome_step_of_error performed, step_of_error performed⟩

end Writes

/-- Arrays are shared by reference: no two fields have one array, and a command changes neither
the arrays nor what they hold of any state but its own. What is refused changes nothing, unless a
record is read into a state with arrays that are no plain lists. References see what is written
through their field, elements, records and rates, until the field is given a new array. -/
structure SharesByReference (s : Session) : Prop where
  separate : s.Separate
  others : ∀ (c : Command) (name : String), c.target? ≠ some name →
    ∀ f, (s.step c).1.field? name f = s.field? name f
  refused : ∀ (c : Command) (e : Fault), (s.step c).2.outcome = .error e →
    (∀ name ref, c.readsInto? = some name → s.states.find? name = some ref →
      (ref.view s.heap).RecordPlain ∧ ∃ n, (ref.view s.heap).thp.length? = .ok n) →
        (s.step c).1 = s
  refers : ∀ (name : String) (ref : StateRef) (f : Field) (id : String),
    s.states.find? name = some ref → (s.step (.plain (.hold name f id))).1.Refers id name f
  elements : ∀ (name : String) (ref : StateRef) (f : Field) (index : Int) (value : Datum)
    (b : Block Float), s.states.find? name = some ref →
      value.writeRow (s.heap.read (ref.toArrays.get f)) index = .ok b →
        (s.step (.plain (.poke name f index value))).2.outcome = .ok .done ∧
          (s.step (.plain (.poke name f index value))).1.field? name f = some b
  records : ∀ (name : String) (ref : StateRef) (record : Datum) (xs : List Float) (reply : Reply),
    s.states.find? name = some ref → (ref.view s.heap).Plain → record.floats = .ok xs →
      (s.step (.plain (.unpack name record))).2.outcome = .ok reply →
        s.RecordRead (s.step (.plain (.unpack name record))).1 ref xs
  rates : ∀ (name : String) (ref : StateRef) (wells width : Nat),
    s.states.find? name = some ref → (ref.view s.heap).size? = .ok wells →
      (ref.view s.heap).rateWidth = .ok width → s.WritesRates name ref wells width

/-- Every session shares its arrays by reference. -/
theorem sharesByReference_run (commands : List Command) :
    (({} : Session).run commands).SharesByReference := by
  have separate := separate_run commands
  generalize ({} : Session).run commands = s at separate
  refine ⟨separate, ?_, ?_, ?_, ?_, ?_, ?_⟩
  · exact fun c name other f => field?_step_of_ne separate other f
  · exact fun c e refused plain => step_eq_of_refused separate plain refused
  · intro name ref f id bound
    exact (shares_hold bound f id).refers (separate.run [_])
  · exact fun name ref f index value b bound written => step_poke separate bound written
  · intro name ref record xs reply bound plain read answered
    exact (readsRecord_of_answer separate bound plain (answer_unpack bound read)).read reply
      answered
  · exact fun name ref wells width bound size rates => writesRates separate bound size rates

/-- A held array sees an element that is written, but not the state that is made anew. -/
example :
    let s := ({} : Session).run
      [.plain (.makeState "state" none), .plain (.replace "state" .bhp (.list [.float 1.0])),
       .plain (.hold "state" .bhp "held"), .plain (.poke "state" .bhp 0 (.float 2.0))]
    let t := (s.step (.reseed "state" none .null)).1
    s.reference? "held" = some (.flat [2.0]) ∧ t.reference? "held" = some (.flat [2.0]) ∧
      t.field? "state" .bhp = some (.flat []) := ⟨rfl, rfl, rfl⟩

/-- Two wells with two rates each, under a number of phases below zero. -/
def negativePhases : List Command :=
  [.plain (.makeWells "wells" (.member 1)),
   .plain (.setPhases "wells" (.member (-1))),
   .plain (.makeState "state" none),
   .reseed "state" (some "wells") (.list []),
   .plain (.replace "state" .bhp (.list [.float 0.0, .float 0.0])),
   .plain (.replace "state" .wellRates
     (.list [.float 1.0, .float 2.0, .float 3.0, .float 4.0]))]

/-- A record that is refused by a column has been written into the arrays before it. Under a
number of phases below zero, the rates of a well do not begin at its number times the number of
phases, counted from the end. -/
theorem not_unchanged_column_and_not_place_negativePhases :
    ((({} : Session).run columnStates).step
        (.plain (.unpack "column" (Datum.nest [3] [1.5, 2.5, 3.5])))).2.outcome =
          .error (.input .unequalLengths) ∧
    ((({} : Session).run columnStates).step
        (.plain (.unpack "column" (Datum.nest [3] [1.5, 2.5, 3.5])))).1.field? "column" .bhp ≠
          (({} : Session).run columnStates).field? "column" .bhp ∧
    ∃ ref n, (({} : Session).run negativePhases).states.find? "state" = some ref ∧
      (({} : Session).run negativePhases).field? "state" .wellRates =
        some (.flat [1.0, 2.0, 3.0, 4.0]) ∧
      place? 4 (1 * ref.phases + 0) = some n ∧
      ((({} : Session).run negativePhases).step
        (.plain (.pokeRate "state" 1 0 (.float 9.0)))).2.outcome = .ok .done ∧
      ((({} : Session).run negativePhases).step
        (.plain (.pokeRate "state" 1 0 (.float 9.0)))).1.field? "state" .wellRates ≠
          some (.flat ([1.0, 2.0, 3.0, 4.0].set n 9.0)) := by
  refine ⟨rfl, ?_, ?_⟩
  · have before : (({} : Session).run columnStates).field? "column" .bhp =
        some (.flat [0.0]) := rfl
    have after : ((({} : Session).run columnStates).step
        (.plain (.unpack "column" (Datum.nest [3] [1.5, 2.5, 3.5])))).1.field? "column" .bhp =
          some (.flat [1.5]) := rfl
    rw [before, after]
    intro same
    have first := (List.cons.inj (Block.flat.inj (Option.some.inj same))).1
    exact absurd first (by decide)
  · obtain ⟨ref, bound, phases⟩ :
        ∃ ref ∈ (({} : Session).run negativePhases).states.find? "state", ref.phases = -1 := by
      decide +kernel
    refine ⟨ref, 3, bound, rfl, by rw [phases]; rfl, rfl, ?_⟩
    have after : ((({} : Session).run negativePhases).step
        (.plain (.pokeRate "state" 1 0 (.float 9.0)))).1.field? "state" .wellRates =
          some (.flat [1.0, 2.0, 9.0, 4.0]) := rfl
    rw [after]
    intro same
    have entries := congrArg (fun xs => xs[2]?) (Block.flat.inj (Option.some.inj same))
    have third : (9.0 : Float) = 3.0 := Option.some.inj entries
    exact absurd third (by decide)

end Session

end Reservoir
