import Reservoir.Proofs.Control.Change
import Reservoir.Proofs.Session.Settled

/-!
# What a command makes of a session

`Session.Change` has one case for each kind of accepted command, with what was accepted. A
step either is such a change or leaves the session as it was, so what every change keeps is
kept by a whole run.
-/

namespace Reservoir

/-- Commands that change nothing. -/
def PlainCommand.Asks : PlainCommand → Prop
  | .showWell .. | .firstCell .. | .layout _ | .showState _ | .held _ | .ratesByWell _
  | .offsets _ | .pack _ | .table .. | .chart .. => True
  | _ => False

/-- The place of a well, counted from either end, is where it stands. -/
theorem WellSet.getElem?_of_place {ws : WellSet} {i : Int} {n : Nat} {w : Well}
    (well : ws.well i = .ok w) (place : ws.place i = .ok n) : ws.wells[n]? = some w := by
  rw [WellSet.place] at place
  rw [WellSet.well, atPlace?] at well
  split at place
  · next found =>
    cases place
    rw [show place? ws.wells.length i = some n from found] at well
    split at well
    · next h =>
      cases well
      exact h
    · cases well
  · cases place

namespace Session

/-- What an accepted command makes of a session. -/
inductive Change (s : Session) : Command → Session → Prop
  | seed {id : String} {wells : Option String} {pressure : Datum} {request : SettingsRequest}
      {settings : Settings} {ws : Option WellSet} {state : WellState}
      (asked : request.settings? = .ok settings) (found : s.optionalWells wells = .ok ws)
      (made : (WellState.initial settings ws pressure).outcome = .ok state) :
      Change s (.seed id wells pressure request) (s.bindState id state)
  | reseed {name : String} {wells : Option String} {pressure : Datum} {ref : StateRef}
      {ws : Option WellSet} {state : WellState} (bound : s.states.find? name = some ref)
      (found : s.optionalWells wells = .ok ws)
      (made : (WellState.initial ref.settings ws pressure).outcome = .ok state) :
      Change s (.reseed name wells pressure) (s.bindState name state)
  | makeWells {id : String} {phases : Choice Int} {ws : WellSet}
      (made : WellSet.create phases = .ok ws) :
      Change s (.plain (.makeWells id phases)) (s.bindWells id ws)
  | addWell {name wellName : String} {role : Choice Role} {cells : Datum} {ws : WellSet}
      {w : Well} (bound : s.wellSets.find? name = some ws)
      (made : ws.newWell wellName role cells = .ok w) :
      Change s (.plain (.addWell name wellName role cells)) (s.bindWells name (ws.push w))
  | control {name : String} {i : Int} {call : ControlCommand} {ws : WellSet} {n : Nat}
      {w : Well} {stack : ControlStack} (bound : s.wellSets.find? name = some ws)
      (well : ws.wells[n]? = some w) (changed : w.stack.Change call stack) :
      Change s (.plain (.control name i call)) (s.bindWells name (ws.modify n ({ · with stack })))
  | setRole {name : String} {i : Int} {role : Choice Role} {ws : WellSet} {n : Nat}
      (bound : s.wellSets.find? name = some ws) (place : ws.place i = .ok n) :
      Change s (.plain (.setRole name i role)) (s.bindWells name (ws.modify n ({ · with role })))
  | setPhases {name : String} {phases : Choice Int} {ws : WellSet}
      (bound : s.wellSets.find? name = some ws) :
      Change s (.plain (.setPhases name phases)) (s.bindWells name { ws with phases })
  | makeState {id : String} {request : SettingsRequest} {settings : Settings}
      (asked : request.settings? = .ok settings) :
      Change s (.plain (.makeState id request)) (s.bindState id (.blank settings))
  | poke {name : String} {field : Field} {index : Int} {value : Datum} {ref : StateRef}
      {b : Block Float} (bound : s.states.find? name = some ref)
      (written : value.writeRow (s.heap.read (ref.toArrays.get field)) index = .ok b) :
      Change s (.plain (.poke name field index value))
        { s with heap := s.heap.write (ref.toArrays.get field) b }
  | pokeRate {name : String} {w p : Int} {value : Datum} {ref : StateRef} {n : Nat} {x : Float}
      (bound : s.states.find? name = some ref)
      (place : (ref.view s.heap).ratePlace w p = .ok n) (read : value.entry = .ok x) :
      Change s (.plain (.pokeRate name w p value))
        { s with heap := s.heap.write ref.wellRates ((s.heap.read ref.wellRates).withEntries
            ((s.heap.read ref.wellRates).entries.set n x)) }
  | replace {name : String} {field : Field} {values : Datum} {ref : StateRef}
      {b : Block Float} (bound : s.states.find? name = some ref) (read : values.block = .ok b) :
      Change s (.plain (.replace name field values))
        { s with
          heap := (s.heap.alloc b).1
          states := s.states.insert name
            { ref with toArrays := ref.toArrays.set field (s.heap.alloc b).2 } }
  | hold {name id : String} {field : Field} {ref : StateRef}
      (bound : s.states.find? name = some ref) :
      Change s (.plain (.hold name field id))
        { s with handles := s.handles.insert id (ref.toArrays.get field) }
  | unpack {name : String} {record : Datum} {xs : List Float} {ref : StateRef}
      {state : WellState} {outcome : Except InputFault Unit}
      (bound : s.states.find? name = some ref) (read : record.floats = .ok xs)
      (unpacked : (ref.view s.heap).unpack xs = .ok (state, outcome)) :
      Change s (.plain (.unpack name record))
        { s with heap := s.heap.writeFields Field.recorded ref.toArrays state.toArrays }
  | unpackFrom {name source : String} {record : Block Float} {ref other : StateRef}
      {state : WellState} {outcome : Except InputFault Unit}
      (bound : s.states.find? name = some ref) (from_ : s.states.find? source = some other)
      (packed : (other.view s.heap).pack = .ok record)
      (unpacked : (ref.view s.heap).unpack record.entries = .ok (state, outcome)) :
      Change s (.plain (.unpackFrom name source))
        { s with heap := s.heap.writeFields Field.recorded ref.toArrays state.toArrays }
  | ask {command : PlainCommand} (asks : command.Asks) : Change s (.plain command) s

variable {s t : Session}

/-- A question that is answered leaves the session as it is. -/
theorem eq_of_asks {command : PlainCommand} {reply : Except Fault Reply}
    (asks : command.Asks) (h : s.answer command = .ok (t, reply)) : t = s := by
  cases command with
  | layout =>
      obtain ⟨_, _, h⟩ := bind_eq_ok_iff.mp h
      cases h
      rfl
  | showWell | showState | held | offsets | pack =>
      obtain ⟨_, _, h⟩ := bind_eq_ok_iff.mp h
      obtain ⟨_, _, h⟩ := bind_eq_ok_iff.mp h
      cases h
      rfl
  | firstCell | ratesByWell | table =>
      obtain ⟨_, _, h⟩ := bind_eq_ok_iff.mp h
      obtain ⟨_, _, h⟩ := bind_eq_ok_iff.mp h
      obtain ⟨_, _, h⟩ := bind_eq_ok_iff.mp h
      cases h
      rfl
  | chart =>
      obtain ⟨_, _, h⟩ := bind_eq_ok_iff.mp h
      obtain ⟨_, _, h⟩ := bind_eq_ok_iff.mp h
      obtain ⟨_, _, h⟩ := bind_eq_ok_iff.mp h
      obtain ⟨_, _, h⟩ := bind_eq_ok_iff.mp h
      obtain ⟨_, _, h⟩ := bind_eq_ok_iff.mp h
      cases h
      rfl
  | _ => exact asks.elim

theorem unpacked_of_unpack {name : String} {xs : List Float} {reply : Except Fault Reply}
    (h : s.unpack name xs = .ok (t, reply)) :
    ∃ ref state outcome, s.states.find? name = some ref ∧
      (ref.view s.heap).unpack xs = .ok (state, outcome) ∧
      t = { s with heap := s.heap.writeFields Field.recorded ref.toArrays state.toArrays } := by
  obtain ⟨ref, bound, h⟩ := bind_eq_ok_iff.mp h
  obtain ⟨⟨state, outcome⟩, unpacked, h⟩ := bind_eq_ok_iff.mp h
  have after := (Prod.mk.inj (Except.ok.inj h)).1
  exact ⟨ref, state, outcome, Registry.get_eq_ok_iff.mp bound, unpacked, after.symm⟩

theorem change_of_answer {command : PlainCommand} {reply : Except Fault Reply}
    (h : s.answer command = .ok (t, reply)) : s.Change (.plain command) t := by
  by_cases asks : command.Asks
  · rw [eq_of_asks asks h]
    exact .ask asks
  · cases command with
    | makeWells id phases =>
        obtain ⟨ws, made, h⟩ := bind_eq_ok_iff.mp h
        cases h
        exact .makeWells made
    | addWell name wellName role cells =>
        obtain ⟨ws, bound, h⟩ := bind_eq_ok_iff.mp h
        obtain ⟨⟨after, w⟩, added, h⟩ := bind_eq_ok_iff.mp h
        obtain ⟨made, new, added⟩ := bind_eq_ok_iff.mp added
        cases added
        cases h
        exact .addWell (Registry.get_eq_ok_iff.mp bound) new
    | control name i call =>
        obtain ⟨ws, bound, h⟩ := bind_eq_ok_iff.mp h
        obtain ⟨w, well, h⟩ := bind_eq_ok_iff.mp h
        obtain ⟨n, place, h⟩ := bind_eq_ok_iff.mp h
        obtain ⟨⟨stack, answer⟩, changed, h⟩ := bind_eq_ok_iff.mp h
        cases h
        exact .control (Registry.get_eq_ok_iff.mp bound) (WellSet.getElem?_of_place well place)
          (ControlStack.change_of_ok changed)
    | setRole name i role =>
        obtain ⟨ws, bound, h⟩ := bind_eq_ok_iff.mp h
        obtain ⟨n, place, h⟩ := bind_eq_ok_iff.mp h
        cases h
        exact .setRole (Registry.get_eq_ok_iff.mp bound) place
    | setPhases name phases =>
        obtain ⟨ws, bound, h⟩ := bind_eq_ok_iff.mp h
        cases h
        exact .setPhases (Registry.get_eq_ok_iff.mp bound)
    | makeState id request =>
        obtain ⟨given, read, h⟩ := bind_eq_ok_iff.mp h
        obtain ⟨settings, numbers, h⟩ := bind_eq_ok_iff.mp h
        obtain ⟨_, _, h⟩ := bind_eq_ok_iff.mp h
        cases h
        exact .makeState (bind_eq_ok_iff.mpr ⟨given, read, numbers⟩)
    | poke name field index value =>
        obtain ⟨ref, bound, h⟩ := bind_eq_ok_iff.mp h
        obtain ⟨b, written, h⟩ := bind_eq_ok_iff.mp h
        cases h
        exact .poke (Registry.get_eq_ok_iff.mp bound) (mapError_eq_ok_iff.mp written)
    | pokeRate name w p value =>
        obtain ⟨ref, bound, h⟩ := bind_eq_ok_iff.mp h
        obtain ⟨n, place, h⟩ := bind_eq_ok_iff.mp h
        obtain ⟨x, read, h⟩ := bind_eq_ok_iff.mp h
        cases h
        exact .pokeRate (Registry.get_eq_ok_iff.mp bound) (mapError_eq_ok_iff.mp place)
          (mapError_eq_ok_iff.mp read)
    | replace name field values =>
        obtain ⟨ref, bound, h⟩ := bind_eq_ok_iff.mp h
        obtain ⟨b, read, h⟩ := bind_eq_ok_iff.mp h
        cases h
        exact .replace (Registry.get_eq_ok_iff.mp bound) (mapError_eq_ok_iff.mp read)
    | hold name field id =>
        obtain ⟨ref, bound, h⟩ := bind_eq_ok_iff.mp h
        cases h
        exact .hold (Registry.get_eq_ok_iff.mp bound)
    | unpack name record =>
        obtain ⟨_, _, h⟩ := bind_eq_ok_iff.mp h
        obtain ⟨xs, read, h⟩ := bind_eq_ok_iff.mp h
        obtain ⟨ref, state, outcome, bound, unpacked, rfl⟩ := unpacked_of_unpack h
        exact .unpack bound (mapError_eq_ok_iff.mp read) unpacked
    | unpackFrom name source =>
        obtain ⟨_, _, h⟩ := bind_eq_ok_iff.mp h
        obtain ⟨seen, viewed, h⟩ := bind_eq_ok_iff.mp h
        obtain ⟨other, here, shown⟩ := bind_eq_ok_iff.mp viewed
        cases shown
        obtain ⟨record, packed, written⟩ := bind_eq_ok_iff.mp h
        obtain ⟨ref, state, outcome, bound, unpacked, rfl⟩ := unpacked_of_unpack written
        exact .unpackFrom bound (Registry.get_eq_ok_iff.mp here)
          (mapError_eq_ok_iff.mp packed) unpacked
    | _ => exact absurd trivial asks

theorem step_of_ok {command : Command} {reply : Except Fault Reply}
    (h : (s.perform command).outcome = .ok (t, reply)) :
    (s.step command).1 = t ∧ (s.step command).2.outcome = reply := by
  simp [step, h]

theorem outcome_step_of_error {command : Command} {e : Fault}
    (h : (s.perform command).outcome = .error e) : (s.step command).2.outcome = .error e := by
  simp [step, h]

/-- The answer of a plain command. -/
theorem outcome_step_plain (s : Session) (command : PlainCommand) :
    (s.step (.plain command)).2.outcome = (s.answer command).bind Prod.snd := by
  rw [step]
  simp only [perform, Reported.outcome_ofExcept]
  cases s.answer command <;> rfl

/-- A step that is refused and changes nothing, or is answered and makes its change. -/
def AllOrNothing (s : Session) (command : Command) : Prop :=
  (∃ e, (s.step command).2.outcome = .error e ∧ (s.step command).1 = s) ∨
    ∃ r, (s.step command).2.outcome = .ok r ∧ s.Change command (s.step command).1

section AllOrNothing

variable {command : Command} (h : s.AllOrNothing command)
include h

theorem AllOrNothing.eq_or_change :
    (s.step command).1 = s ∨ s.Change command (s.step command).1 := by
  rcases h with ⟨_, _, same⟩ | ⟨_, _, change⟩
  · exact .inl same
  · exact .inr change

theorem AllOrNothing.eq_of_error {e : Fault} (failed : (s.step command).2.outcome = .error e) :
    (s.step command).1 = s := by
  rcases h with ⟨_, _, same⟩ | ⟨_, answered, _⟩
  · exact same
  · cases answered.symm.trans failed

theorem AllOrNothing.change_of_ok {reply : Reply}
    (answered : (s.step command).2.outcome = .ok reply) :
    s.Change command (s.step command).1 := by
  rcases h with ⟨_, failed, _⟩ | ⟨_, _, change⟩
  · cases failed.symm.trans answered
  · exact change

end AllOrNothing

theorem allOrNothing_seed (s : Session) (id : String) (wells : Option String) (pressure : Datum)
    (request : SettingsRequest) : s.AllOrNothing (.seed id wells pressure request) := by
  cases asked : request.settings? with
  | error e =>
      obtain ⟨d, failed⟩ := exists_error_of_seed asked s id wells pressure
      exact .inl ⟨d, outcome_step_of_error failed, step_of_error failed⟩
  | ok settings =>
      rw [AllOrNothing, step_seed asked]
      rcases settle_cases s id settings wells pressure with
        ⟨e, failed, same⟩ | ⟨ws, state, v, found, made, view, answered, after⟩
      · exact .inl ⟨e, failed, same⟩
      · rw [after]
        exact .inr ⟨_, answered, .seed asked found made⟩

theorem allOrNothing_reseed (s : Session) (name : String) (wells : Option String)
    (pressure : Datum) : s.AllOrNothing (.reseed name wells pressure) := by
  cases bound : s.states.find? name with
  | none =>
      have failed : (s.perform (.reseed name wells pressure)).outcome = .error (.unbound name) := by
        simp only [perform, reseed, Registry.get, bound, Reported.bind_def,
          Reported.andThen_ofExcept_error, Reported.outcome_ofExcept]
      exact .inl ⟨_, outcome_step_of_error failed, step_of_error failed⟩
  | some ref =>
      rw [AllOrNothing, step_reseed bound]
      rcases settle_cases s name ref.settings wells pressure with
        ⟨e, failed, same⟩ | ⟨ws, state, v, found, made, view, answered, after⟩
      · exact .inl ⟨e, failed, same⟩
      · rw [after]
        exact .inr ⟨_, answered, .reseed bound found made⟩

/-- A step changes nothing or is the change of an accepted command. -/
theorem step_cases (s : Session) (command : Command) :
    (s.step command).1 = s ∨ s.Change command (s.step command).1 := by
  cases command with
  | seed id wells pressure request =>
      exact (s.allOrNothing_seed id wells pressure request).eq_or_change
  | reseed name wells pressure =>
      exact (s.allOrNothing_reseed name wells pressure).eq_or_change
  | plain command =>
      cases h : (s.perform (.plain command)).outcome with
      | error e => exact .inl (step_of_error h)
      | ok result =>
          rw [(step_of_ok h).1]
          exact .inr (change_of_answer h)

/-- What every change by the commands of a list keeps holds after the whole list. -/
theorem run_induction {Invariant : Session → Prop} {Allowed : Command → Prop}
    (kept : ∀ {s command t}, Allowed command → Invariant s → s.Change command t → Invariant t)
    {s : Session} {commands : List Command} (allowed : ∀ c ∈ commands, Allowed c)
    (initial : Invariant s) : Invariant (s.run commands) := by
  induction commands generalizing s with
  | nil => exact initial
  | cons c commands ih =>
      rw [run_cons]
      apply ih fun d hd => allowed d (List.mem_cons_of_mem c hd)
      rcases step_cases s c with same | change
      · rw [same]
        exact initial
      · exact kept (allowed c List.mem_cons_self) initial change

end Session

end Reservoir
