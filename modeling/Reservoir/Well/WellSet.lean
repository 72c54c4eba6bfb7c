import Reservoir.Position
import Reservoir.Well.Basic

/-!
# Sets of wells

The wells of a set stand in the order in which they were added and share a number of phases.
Connections are numbered well by well: connection `c` of well `w` has the flat position
`connectionPositions[w] + c`, and `wellCells` lists the cells of all connections in that
order.
-/

namespace Reservoir

/-- An ordered set of wells. The number of phases may have been given as another value than
an integer. -/
structure WellSet where
  phases : Choice Int
  wells : List Well := []

namespace WellSet

/-- Whether a number of phases is below one. -/
def tooFew : Choice Int → Except InputFault Bool
  | .member p => .ok (decide (p < 1))
  | .other given => given.belowOne

/-- A set without wells. -/
def create (phases : Choice Int) : Except Fault WellSet := do
  if ← (tooFew phases).mapError .input then throw (.well (.phaseCount phases))
  else pure { phases }

/-- The least number of 64 bits, `-2 ^ 63`. -/
def leastCell : Int := -9223372036854775808

/-- The number of a cell, which must be whole. The least number of 64 bits stands for every number
that has no 64 bits, an infinite one included. -/
def cell? (x : Float) : Option Int :=
  if x.isInf then some leastCell
  else (Number.whole? x).map fun n => if leastCell ≤ n ∧ n < -leastCell then n else leastCell

/-- Cell numbers. Integers are read as doubles first. -/
def readCells (name : String) (given : Datum) : Except Fault (List Int) := do
  let xs ← given.floats.mapError .input
  match xs.mapM cell? with
  | some cells => pure cells
  | none => throw (.well (.fractionalCells name given))

/-- A new well with an empty, open control stack. -/
def newWell (ws : WellSet) (name : String) (role : Choice Role) (cells : Datum) :
    Except Fault Well := do
  match role with
  | .other given => throw (.well (.unknownRole name given))
  | .member _ =>
    let cells ← readCells name cells
    pure { name, role, cells, stack := .empty (some ws.phases) }

/-- A set with one more well. -/
def push (ws : WellSet) (w : Well) : WellSet :=
  { ws with wells := ws.wells ++ [w] }

/-- A set with one more well, if the well is accepted. -/
def addWell (ws : WellSet) (name : String) (role : Choice Role) (cells : Datum) :
    Except Fault (WellSet × Well) := do
  let w ← ws.newWell name role cells
  pure (ws.push w, w)

def size (ws : WellSet) : Nat := ws.wells.length

def names (ws : WellSet) : List String := ws.wells.map (·.name)

/-- The first flat position after those of each of the wells, starting from `start`. -/
def positionsFrom (start : Nat) : List Well → List Nat
  | [] => [start]
  | w :: ws => start :: positionsFrom (start + w.cells.length) ws

/-- The first flat position of every well, and at the end the number of connections. -/
def connectionPositions (ws : WellSet) : List Nat := positionsFrom 0 ws.wells

def totalConnections (ws : WellSet) : Nat :=
  ws.wells.foldr (fun w n => w.cells.length + n) 0

/-- The cells of all connections. -/
def wellCells (ws : WellSet) : List Int := ws.wells.flatMap (·.cells)

/-- The place of a well, counted from either end. -/
def place (ws : WellSet) (w : Int) : Except Fault Nat :=
  match place? ws.size w with
  | some n => .ok n
  | none => .error (.input .noPosition)

/-- The well at a place, counted from either end. -/
def well (ws : WellSet) (w : Int) : Except Fault Well :=
  match atPlace? ws.wells w with
  | some x => .ok x
  | none => .error (.input .noPosition)

/-- The set with one well changed. -/
def modify (ws : WellSet) (n : Nat) (f : Well → Well) : WellSet :=
  { ws with wells := ws.wells.modify n f }

theorem length_positionsFrom (start : Nat) (ws : List Well) :
    (positionsFrom start ws).length = ws.length + 1 := by
  induction ws generalizing start with
  | nil => rfl
  | cons w ws ih => simp [positionsFrom, ih]

theorem length_wellCells (ws : WellSet) : ws.wellCells.length = ws.totalConnections := by
  rw [wellCells, totalConnections]
  induction ws.wells with
  | nil => rfl
  | cons w wells ih => rw [List.flatMap_cons, List.length_append, ih, List.foldr_cons]

end WellSet

end Reservoir
