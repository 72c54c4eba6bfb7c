import Reservoir.Datum.Basic

/-!
# Faults

Every refusal of the library is one of the causes below, grouped by what was at fault: the
numbers given, the settings, a control stack, a well, a grid, a restart record, or a name
that stands for nothing yet. `Fault.kind` is the coarse class of a cause and
`Fault.message?` its wording; causes found while reading plain numbers have none.
-/

namespace Reservoir

/-- Faults of plain numbers and lists. -/
inductive InputFault where
  /-- A nested list is not rectangular, or too deep. -/
  | irregular
  /-- A text stands where a number is needed. -/
  | unreadable
  /-- A NaN stands where an integer is needed. -/
  | notInteger
  /-- A list of pairs has an odd number of ends. -/
  | oddPairs
  /-- A grid has other than three dimensions. -/
  | dimensionCount
  /-- A length is negative. -/
  | negativeLength
  /-- A length is beyond all that can be held. -/
  | excessiveLength
  /-- Lengths that have to agree do not. -/
  | unequalLengths
  /-- An index lies outside the matrix it is meant for. -/
  | outsideMatrix
  /-- Something other than one number stands where one number is needed. -/
  | notNumber
  /-- Something without a length stands where a list is needed. -/
  | notList
  /-- A function is given another number of arguments than it takes. -/
  | argumentCount
  /-- No setting has this name. -/
  | unknownSetting (name : String)
  /-- A number is beyond the range of its type. -/
  | tooLarge
  /-- A position lies outside its list. -/
  | noPosition
  /-- A control kind that is no kind cannot be asked whether it is a pressure. -/
  | noPressureTest

/-- Faults of the numeric constants. -/
inductive SettingsFault where
  | smallRate (given : Datum)
  | injectorFactor (given : Datum)
  | producerFactor (given : Datum)
  | unsetPressure (given : Datum)

/-- Faults of control stacks. -/
inductive ControlFault where
  | unknownKind (given : Datum)
  | notFlat (given : Datum)
  | phaseCount (entries : Nat) (phases : Choice Int)
  | negativeShare
  | sum (total : Float)
  | missingDistribution
  | noSuchControl (index : Int) (size : Nat)
  | noCurrent
  /-- Seen only when a well is initialized. -/
  | unmatchedPhases (well : String) (phases : Nat)
  /-- Seen only when a well is initialized. -/
  | unhandledKind (well : String) (given : Datum)

/-- Faults of wells. -/
inductive WellFault where
  | phaseCount (phases : Choice Int)
  | unknownRole (well : String) (given : Datum)
  | fractionalCells (well : String) (given : Datum)
  | noConnections (well : String)
  | noAmbientPressure (well : String) (cell : Int) (field : Nat)

/-- On which side of a cell its neighbours crowd. -/
inductive Side where
  | below
  | above
deriving DecidableEq, Repr

/-- Faults of grids and their vertical connections. -/
inductive GridFault where
  | dimensions (nx ny nz : Datum)
  | maskSize (entries expected : Nat)
  | cellsOutside
  | unknownCell
  | repeated
  | crowded (cell count : Nat) (side : Side)
  | askew (upper lower : Nat)
  | sharedPosition
  /-- A connected cell has no coordinates. -/
  | noCoordinates

/-- Faults of restart records. -/
inductive RecordFault where
  | negativeSize (sizes : List Datum)
  | size (found expected : Nat)

/-- A cause of refusal. -/
inductive Fault where
  | input (cause : InputFault)
  | settings (cause : SettingsFault)
  | control (cause : ControlFault)
  | well (cause : WellFault)
  | grid (cause : GridFault)
  | record (cause : RecordFault)
  /-- Nothing has been made under this name. -/
  | unbound (name : String)

instance : Coe InputFault Fault := ⟨.input⟩

instance : Coe ControlFault Fault := ⟨.control⟩

instance : Coe WellFault Fault := ⟨.well⟩

instance : Coe GridFault Fault := ⟨.grid⟩

instance : Coe RecordFault Fault := ⟨.record⟩

/-- The coarse class of a cause. -/
inductive FaultKind where
  /-- A value of the right sort that is not admitted. -/
  | invalid
  | outOfRange
  /-- A value of another sort than the one needed. -/
  | wrongSort
  | overflow
  /-- A question that does not apply. -/
  | inapplicable
  | control
  | well
  | grid
  | record
  | unbound
deriving DecidableEq, Repr

def InputFault.kind : InputFault → FaultKind
  | .irregular => .invalid
  | .unreadable => .invalid
  | .notInteger => .invalid
  | .oddPairs => .invalid
  | .dimensionCount => .invalid
  | .negativeLength => .invalid
  | .excessiveLength => .invalid
  | .unequalLengths => .invalid
  | .outsideMatrix => .invalid
  | .notNumber => .wrongSort
  | .notList => .wrongSort
  | .argumentCount => .wrongSort
  | .unknownSetting _ => .wrongSort
  | .tooLarge => .overflow
  | .noPosition => .outOfRange
  | .noPressureTest => .inapplicable

def GridFault.kind : GridFault → FaultKind
  | .noCoordinates => .outOfRange
  | _ => .grid

def Fault.kind : Fault → FaultKind
  | .input cause => cause.kind
  | .settings _ => .invalid
  | .control _ => .control
  | .well _ => .well
  | .grid cause => cause.kind
  | .record _ => .record
  | .unbound _ => .unbound

def SettingsFault.message : SettingsFault → String
  | .smallRate d =>
    "SMALL_RATE (" ++ d.render ++ ") must be > 0, its sign is applied per well role."
  | .injectorFactor d =>
    "INJECTOR_BHP_FACTOR (" ++ d.render ++
      ") must be > 1 so that injector BHP starts above reservoir pressure."
  | .producerFactor d =>
    "PRODUCER_BHP_FACTOR (" ++ d.render ++
      ") must be in (0, 1) so that producer BHP starts below reservoir pressure."
  | .unsetPressure d =>
    "UNSET_PRESSURE (" ++ d.render ++
      ") must be negative to stay outside any physical pressure range."

/-- The start of every message about a named well. -/
def wellHeading (name : String) : String :=
  "Well " ++ Text.quoted name

/-- A negative share is refused without words. -/
def ControlFault.message? : ControlFault → Option String
  | .unknownKind d => some ("Unknown control kind: " ++ d.render)
  | .notFlat d => some ("Distribution must be a non empty 1D sequence, got " ++ d.render)
  | .phaseCount n p =>
    some ("Distribution has " ++ toString n ++ " entries but the well set has " ++
      p.display toString ++ " phases.")
  | .negativeShare => none
  | .sum x => some ("Distribution must sum to 1, got " ++ Decimal.text x)
  | .missingDistribution => some "A surface rate control needs a phase distribution."
  | .noSuchControl i n =>
    some ("Control index " ++ toString i ++ " out of range for a stack of " ++ toString n)
  | .noCurrent => some "No current control."
  | .unmatchedPhases w p =>
    some (wellHeading w ++ ": surface rate distribution does not match " ++ toString p ++ " phases")
  | .unhandledKind w d => some (wellHeading w ++ ": unhandled control kind " ++ d.render)

def WellFault.message : WellFault → String
  | .phaseCount p => "number_of_phases must be >= 1, got " ++ p.display toString
  | .unknownRole w d => wellHeading w ++ ": unknown well type " ++ d.render
  | .fractionalCells w d => wellHeading w ++ ": non integral cell ids in " ++ d.render
  | .noConnections w => wellHeading w ++ " has no connections."
  | .noAmbientPressure w c n =>
    wellHeading w ++ ": no ambient pressure for cell " ++ toString c ++
      " (pressure field has " ++ toString n ++ " cells)"

def Side.word : Side → String
  | .below => "below"
  | .above => "above"

/-- Numbers between round brackets. -/
def tuple (entries : List String) : String :=
  "(" ++ ", ".intercalate entries ++ ")"

def GridFault.message? : GridFault → Option String
  | .dimensions nx ny nz =>
    some ("Invalid grid dimensions " ++ tuple [nx.render, ny.render, nz.render])
  | .maskSize n m =>
    some ("actnum has " ++ toString n ++ " entries, expected " ++ toString m)
  | .cellsOutside => some "global_cell refers to cells outside the grid dimensions"
  | .unknownCell => some "Vertical connection refers to an unknown cell"
  | .repeated => some "Repeated vertical connection"
  | .crowded c n side =>
    some ("Cell " ++ toString c ++ " has " ++ toString n ++ " cells directly " ++ side.word ++
      " it")
  | .askew u l =>
    some ("Vertical connection " ++ toString u ++ " -> " ++ toString l ++
      " does not go down a column")
  | .sharedPosition => some "Two cells share the same logical position"
  | .noCoordinates => none

def RecordFault.message : RecordFault → String
  | .negativeSize sizes => "Negative array size in " ++ tuple (sizes.map Datum.render)
  | .size n m =>
    "Restart record has " ++ toString n ++ " values, state layout expects " ++ toString m

/-- The wording of a cause. -/
def Fault.message? : Fault → Option String
  | .input _ => none
  | .settings cause => some cause.message
  | .control cause => cause.message?
  | .well cause => some cause.message
  | .grid cause => cause.message?
  | .record cause => some cause.message
  | .unbound _ => none

end Reservoir
