import Reservoir.State.Seed
import Reservoir.Steps

/-!
# Initialization

An object that holds a state is initialized for a set of wells, or for none. Without wells its
fields are given empty arrays. For a set of wells a state of its own is populated: its arrays are
made, all zeros, and then written well by well, in order. The first well that cannot be
initialized ends the attempt; what was reported of the wells before it stays reported. Only when
all wells are initialized, the fields of that state are handed over, one by one.
-/

namespace Reservoir

/-- Objects that hold a state. The number of phases and the arrays of the state can be set, each
by itself. -/
class StateObject (σ : Type) where
  settings : σ → Settings
  setPhases : Int → σ → σ
  setArray : Field → Block Float → σ → σ

instance : StateObject WellState where
  settings s := s.settings
  setPhases phases s := { s with phases }
  setArray f b s := { s with toArrays := s.toArrays.set f b }

namespace WellState

open Steps
open StateObject (setPhases setArray)

/-- The number of phases, as an integer. -/
def readPhases : Choice Int → Except InputFault Int
  | .member p => .ok p
  | .other (.bool b) => .ok b.toNat
  | .other _ => .error .notNumber

/-- The number of rates that no state is made for, `2 ^ 60`. -/
def rateLimit : Int := 1152921504606846976

/-- The first rates of wells for a number of phases, which have to be a number that an array can
have. -/
def zeroRates (wells : Nat) (phases : Int) : Except InputFault (Block Float) :=
  if wells * phases < 0 then .error .negativeLength
  else if rateLimit ≤ wells * phases then .error .excessiveLength
  else .ok (.flat (List.replicate (wells * phases).toNat 0.0))

/-- The pressure field, which is read only if there are wells. -/
def readPressure (ws : WellSet) (given : Datum) : Except InputFault (List Float) :=
  if ws.wells.isEmpty then .ok [] else given.floats

section StateObject

variable {σ : Type} [StateObject σ]

/-- New arrays for a number of connections. -/
def resetConnections (connections : Nat) : Steps σ Unit := do
  let settings ← look StateObject.settings
  write (setArray .perfRates (.flat (List.replicate connections 0.0)))
  write (setArray .perfPress (.flat (List.replicate connections settings.unsetPressure)))

/-- New arrays of the given sizes. -/
def reset (wells : Nat) (phases : Int) (connections : Nat) : Steps σ Unit := do
  let settings ← look StateObject.settings
  write (setPhases phases)
  write (setArray .bhp (.flat (List.replicate wells 0.0)))
  write (setArray .thp (.flat (List.replicate wells 0.0)))
  write (setArray .temperature (.flat (List.replicate wells settings.standardKelvin)))
  let rates ← ofInput (zeroRates wells phases)
  write (setArray .wellRates rates)
  resetConnections connections

end StateObject

/-- The array of a field changed in place. -/
def modifyArray (f : Field) (change : Block Float → Block Float) (s : WellState) : WellState :=
  setArray f (change (s.toArrays.get f)) s

/-- A well initialized in the arrays of its set, at its place. -/
def populateWell (pressure : List Float) (n : Nat) (w : Well) : Steps WellState Unit := do
  let settings ← look StateObject.settings
  let phases ← look fun s : WellState => s.phases.toNat
  let seed ← lift (.ofExcept (Seed.ofWell settings phases pressure w))
  write (modifyArray .wellRates (·.overwrite (n * phases) seed.rates))
  write (modifyArray .bhp (·.overwrite n [seed.bhp]))
  write (modifyArray .thp (·.overwrite n [seed.thp]))
  lift (.tell (Seed.report settings w seed))

/-- The wells from place `n` on initialized, one after the other. -/
def populateWells (pressure : List Float) (n : Nat) : List Well → Steps WellState Unit
  | [] => pure ()
  | w :: ws => do
    populateWell pressure n w
    populateWells pressure (n + 1) ws

/-- A state populated from a set of wells. The arrays of the wells are made before the pressure
field is read, and those of the connections when all wells are done. -/
def populate (ws : WellSet) (given : Datum) : Steps WellState Unit := do
  let phases ← ofInput (readPhases ws.phases)
  reset ws.size phases 0
  let pressure ← ofInput (readPressure ws given)
  populateWells pressure 0 ws.wells
  resetConnections ws.totalConnections
  lift (.tell (.event (.stateInitialized ws.size ws.totalConnections)))

section StateObject

variable {σ : Type} [StateObject σ]

/-- The fields of a state handed over to an object, one by one. -/
def handOver (state : WellState) : Steps σ Unit := do
  write (setPhases state.phases)
  Field.all.forM fun f => write (setArray f (state.toArrays.get f))

/-- An object initialized for a set of wells, or for none. -/
def init (wells : Option WellSet) (given : Datum) : Steps σ Unit :=
  match wells with
  | none => reset 0 0 0
  | some ws => do
    let settings ← look StateObject.settings
    let staged ← lift ((populate ws given).result (blank settings))
    handOver staged

end StateObject

/-- The first state of a set of wells, or of none: a new state that is initialized. -/
def initial (settings : Settings) (wells : Option WellSet) (given : Datum) :
    Reported WellState :=
  (init wells given).result (blank settings)

end WellState

end Reservoir
