import Reservoir.Session.Command
import Reservoir.Session.Heap
import Reservoir.Session.Registry

/-!
# Sessions

A session holds named well sets, named states whose arrays are on a heap, and held arrays. A
state shares its arrays with whoever holds them: elements are written in place, while
initializing a state, or replacing one of its fields, gives it new arrays.

`Session.perform` runs one command on a session. A command that fails before it has come to the
object that it changes leaves the session as it was. Two commands write the fields of a state one
after the other, and may fail in between: a record that is read into a state, and a state that is
initialized anew. The session is then left with what has been written, and the answer is a fault.
-/

namespace Reservoir

/-- Named objects and the arrays they share. -/
structure Session where
  heap : Heap := {}
  wellSets : Registry WellSet := {}
  states : Registry StateRef := {}
  handles : Registry Handle := {}

namespace Session

/-- The set of wells under a name, where a missing name stands for no wells. -/
def optionalWells (s : Session) : Option String → Except Fault (Option WellSet)
  | none => .ok none
  | some name => do
    let ws ← s.wellSets.get name
    pure (some ws)

/-- The session with a set of wells under a name. -/
def bindWells (s : Session) (name : String) (ws : WellSet) : Session :=
  { s with wellSets := s.wellSets.insert name ws }

/-- The session with a new state under a name. -/
def bindState (s : Session) (name : String) (state : WellState) : Session :=
  let (heap, ref) := StateRef.create s.heap state
  { s with heap, states := s.states.insert name ref }

/-- The state under a name, as it is now. -/
def view (s : Session) (name : String) : Except Fault WellState := do
  let ref ← s.states.get name
  pure (ref.view s.heap)

/-- What a command leaves: a session, and the answer. -/
abbrev Result := Session × Except Fault Reply

/-- An answer that changes nothing. -/
def showing (s : Session) (r : Reply) : Result := (s, .ok r)

/-- A control stack of one well, run on a command. -/
def runControl (s : Session) (name : String) (w : Int) (call : ControlCommand) :
    Except Fault Result := do
  let ws ← s.wellSets.get name
  let well ← ws.well w
  let n ← ws.place w
  let (stack, reply) ← well.stack.change call
  pure (s.bindWells name (ws.modify n ({ · with stack })), .ok (.control reply stack))

/-- One row written through the field of a state. -/
def poke (s : Session) (name : String) (field : Field) (index : Int) (value : Datum) :
    Except Fault Result := do
  let ref ← s.states.get name
  let a := ref.toArrays.get field
  let b ← (value.writeRow (s.heap.read a) index).mapError .input
  pure ({ s with heap := s.heap.write a b }, .ok .done)

/-- One value written through the rates of a state, laid out by well. -/
def pokeRate (s : Session) (name : String) (w p : Int) (value : Datum) :
    Except Fault Result := do
  let ref ← s.states.get name
  let n ← ((ref.view s.heap).ratePlace w p).mapError .input
  let x ← value.entry.mapError .input
  let b := s.heap.read ref.wellRates
  pure ({ s with heap := s.heap.write ref.wellRates (b.withEntries (b.entries.set n x)) },
    .ok .done)

/-- A new array in place of the one a field held. -/
def replace (s : Session) (name : String) (field : Field) (values : Datum) :
    Except Fault Result := do
  let ref ← s.states.get name
  let b ← values.block.mapError .input
  let (heap, a) := s.heap.alloc b
  let ref := { ref with toArrays := ref.toArrays.set field a }
  pure ({ s with heap, states := s.states.insert name ref }, .ok .done)

/-- A record written into the arrays of a state. -/
def unpack (s : Session) (name : String) (record : List Float) : Except Fault Result := do
  let ref ← s.states.get name
  let (state, outcome) ← (ref.view s.heap).unpack record
  let heap := s.heap.writeFields Field.recorded ref.toArrays state.toArrays
  let reply := do
    outcome
    let v ← (ref.view heap).view
    pure (Reply.state v)
  pure ({ s with heap }, reply.mapError .input)

/-- A plain command run on a session. -/
def answer (s : Session) : PlainCommand → Except Fault Result
  | .makeWells id phases => do
    let ws ← WellSet.create phases
    pure (s.bindWells id ws, .ok .done)
  | .addWell name wellName role cells => do
    let ws ← s.wellSets.get name
    let (ws, w) ← ws.addWell wellName role cells
    pure (s.bindWells name ws, .ok (.well w))
  | .control name w call => s.runControl name w call
  | .showWell name w => do
    let ws ← s.wellSets.get name
    let x ← ws.well w
    pure (s.showing (.well x))
  | .firstCell name w => do
    let ws ← s.wellSets.get name
    let x ← ws.well w
    let c ← x.firstCell.mapError .well
    pure (s.showing (.cell c))
  | .layout name => do
    let ws ← s.wellSets.get name
    pure (s.showing (.layout ws))
  | .setRole name w role => do
    let ws ← s.wellSets.get name
    let n ← ws.place w
    pure (s.bindWells name (ws.modify n ({ · with role })), .ok .done)
  | .setPhases name phases => do
    let ws ← s.wellSets.get name
    pure (s.bindWells name { ws with phases }, .ok .done)
  | .makeState id request => do
    let given ← request.read
    let settings ← given.settings.mapError .input
    let state := WellState.blank settings
    let v ← state.view.mapError .input
    pure (s.bindState id state, .ok (.state v))
  | .showState name => do
    let state ← s.view name
    let v ← state.view.mapError .input
    pure (s.showing (.state v))
  | .poke name field index value => s.poke name field index value
  | .pokeRate name w p value => s.pokeRate name w p value
  | .replace name field values => s.replace name field values
  | .hold name field id => do
    let ref ← s.states.get name
    pure ({ s with handles := s.handles.insert id (ref.toArrays.get field) }, .ok .done)
  | .held id => do
    let a ← s.handles.get id
    let b := s.heap.read a
    let _ ← b.length?.mapError .input
    pure (s.showing (.values b))
  | .ratesByWell name => do
    let state ← s.view name
    let width ← state.rateWidth.mapError .input
    let rows ← state.ratesByWell.mapError .input
    pure (s.showing (.rates width rows))
  | .offsets name => do
    let state ← s.view name
    let o ← state.offsets
    pure (s.showing (.offsets o))
  | .pack name => do
    let state ← s.view name
    let record ← state.pack.mapError .input
    pure (s.showing (.values record))
  | .unpack name record => do
    let _ ← s.states.get name
    let xs ← record.floats.mapError .input
    s.unpack name xs
  | .unpackFrom name source => do
    let _ ← s.states.get name
    let state ← s.view source
    let record ← state.pack.mapError .input
    s.unpack name record.entries
  | .table name wells => do
    let state ← s.view name
    let ws ← s.optionalWells wells
    let t ← (state.table (ws.map (·.names))).mapError .input
    pure (s.showing (.table t))
  | .chart name wells request => do
    let state ← s.view name
    let ws ← s.optionalWells wells
    let given ← request.read
    let unset ← (given.number .unsetPressure).mapError .input
    let c ← (state.chart ws unset).mapError .input
    pure (s.showing (.chart c))

/-- A new state made from a set of wells. The settings are read before the wells are looked
up. -/
def seed (s : Session) (id : String) (wells : Option String) (pressure : Datum)
    (request : SettingsRequest) : Reported Result := do
  let given ← Reported.ofExcept request.read
  let ws ← Reported.ofExcept (s.optionalWells wells)
  let settings ← Reported.ofExcept (given.settings.mapError .input)
  let state ← WellState.initial settings ws pressure
  let v ← Reported.ofExcept (state.view.mapError .input)
  pure (s.bindState id state, .ok (.state v))

/-- A state initialized anew for a set of wells. The session is left with the state as it then
is, whatever came of it. -/
def reseed (s : Session) (name : String) (wells : Option String) (pressure : Datum) :
    Reported Result := do
  let ref ← Reported.ofExcept (s.states.get name)
  let ws ← Reported.ofExcept (s.optionalWells wells)
  let (held, made) := (WellState.init ws pressure).run (HeldState.mk s.heap ref)
  let reply := do
    made.outcome
    let v ← held.view.view.mapError .input
    pure (Reply.state v)
  ⟨made.journal,
    .ok ({ s with heap := held.heap, states := s.states.insert name held.ref }, reply)⟩

/-- One command run on a session. -/
def perform (s : Session) : Command → Reported Result
  | .seed id wells pressure request => s.seed id wells pressure request
  | .reseed name wells pressure => s.reseed name wells pressure
  | .plain command => Reported.ofExcept (s.answer command)

/-- The session after a command, and the answer. It is the same session if the command failed
before it came to the object that it changes. -/
def step (s : Session) (c : Command) : Session × Reported Reply :=
  let r := s.perform c
  match r.outcome with
  | .ok (t, reply) => (t, ⟨r.journal, reply⟩)
  | .error e => (s, ⟨r.journal, .error e⟩)

/-- The session after a list of commands. -/
def run (s : Session) (cs : List Command) : Session :=
  cs.foldl (fun t c => (t.step c).1) s

/-- The answers to a list of commands. -/
def answers (s : Session) : List Command → List (Reported Reply)
  | [] => []
  | c :: cs => (s.step c).2 :: answers (s.step c).1 cs

@[simp] theorem run_nil (s : Session) : s.run [] = s := rfl

@[simp] theorem run_cons (s : Session) (c : Command) (cs : List Command) :
    s.run (c :: cs) = (s.step c).1.run cs := rfl

theorem step_of_error {s : Session} {c : Command} {e : Fault}
    (h : (s.perform c).outcome = .error e) : (s.step c).1 = s := by
  simp [step, h]

end Session

end Reservoir
