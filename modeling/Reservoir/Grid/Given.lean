import Reservoir.Grid.Cartesian
import Reservoir.Grid.CellBlock
import Reservoir.Grid.HeightMap

/-!
# Grids read from given values

The numbers of a grid may be given as doubles, which are cut to integers once they have been
compared. Faults come up in the order in which the numbers are used: connections are not
looked at before the cells have been found inside the dimensions.

The columns of a grid that is given, their numbers and their map are those of what is read.
-/

namespace Reservoir

/-- Whether there is no value. -/
def Datum.isNull : Datum → Bool
  | .null => true
  | _ => false

/-- Whether a value is a NaN. -/
def Datum.isNaN : Datum → Bool
  | .float x => x.isNaN
  | _ => false

/-- A number cut to an integer, of any size. -/
def Datum.cutInteger : Datum → Except InputFault Int
  | .bool b => pure (if b then 1 else 0)
  | .int n => pure n
  | .float x => Datum.truncated x
  | .text s => Datum.intOfText s
  | _ => throw .notNumber

namespace Grid

/-- Whether the least of three numbers is below one. The least is found from the first on, and
replaced only by a smaller one, so a NaN at the front stays. -/
def leastBelowOne (nx ny nz : Datum) : Except InputFault Bool := do
  let a ← nx.belowOne
  let b ← ny.belowOne
  let c ← nz.belowOne
  pure (!nx.isNaN && (a || b || c))

/-- The number of positions that no mask can have, `2 ^ 63`. -/
def sizeLimit : Int := 9223372036854775808

/-- A grid from given numbers and a given mask; without a mask, or with nothing for one, all
positions are active. -/
def read (nx ny nz : Datum) (mask : Option Datum) : Except Fault Grid := do
  if ← (leastBelowOne nx ny nz).mapError .input then
    throw (.grid (.dimensions nx ny nz))
  let x ← nx.cutInteger.mapError .input
  let y ← ny.cutInteger.mapError .input
  let z ← nz.cutInteger.mapError .input
  let flags ← match mask.filter (!·.isNull) with
    | none => if x * y * z < sizeLimit then pure none else throw (.input .excessiveLength)
    | some d => do
      let bs ← d.flags.mapError .input
      pure (some bs)
  (create x y z flags).mapError .grid

/-- A grid from given values, with its report. -/
def build (nx ny nz : Datum) (mask : Option Datum) : Reported Grid := do
  let g ← Reported.ofExcept (read nx ny nz mask)
  Reported.tell g.report
  pure g

/-- The grid of a list of numbers and a given mask. The first three numbers count. -/
def buildFrom (numbers : List Datum) (mask : Option Datum) : Reported Grid :=
  match numbers with
  | nx :: ny :: nz :: _ => build nx ny nz mask
  | _ => .ofExcept (.error (.input .noPosition))

end Grid

/-- A topology as it is given. -/
structure GivenTopology where
  dimensions : List Datum
  cells : Datum
  connections : Option Datum := none

/-- The cells of a topology, as a list or as a block. -/
inductive GivenCells where
  | list (t : Topology)
  | block (b : CellBlock)

namespace GivenCells

def extract : GivenCells → Reported Extraction
  | .list t => t.extract
  | .block b => b.extract

/-- The numbers of the columns of the cells. -/
def columnIndex : GivenCells → Except Fault (List Int)
  | .list t => t.columnIndex.mapError .grid
  | .block b => b.extract.outcome.map (·.index)

/-- The logical positions of every cell. Only the rows of a block have several. -/
def positions : GivenCells → List (List Int)
  | .list t => t.cells.map ([·])
  | .block b => rowsOf b.rows b.width b.base.cells

end GivenCells

namespace GivenTopology

/-- The three dimensions. One value beyond the third is still read. -/
def readDimensions (given : List Datum) : Except InputFault (Int × Int × Int) := do
  match ← (given.take 4).mapM Datum.cutInteger with
  | [nx, ny, nz] => pure (nx, ny, nz)
  | _ => throw .dimensionCount

/-- The whole topology. The horizontal dimensions have to be integers of 64 bits, and so has the
number of positions in a layer. The connections of a grid without cells are not read. -/
def read (t : GivenTopology) : Except Fault GivenCells := do
  let (nx, ny, nz) ← (readDimensions t.dimensions).mapError .input
  let cells ← t.cells.integerBlock.mapError .input
  let base : Topology := { nx, ny, nz, cells := cells.entries }
  base.checkInside.mapError .grid
  let _ ← (Datum.bounded nx).mapError .input
  let _ ← (Datum.bounded base.layer).mapError .input
  let n ← cells.length?.mapError .input
  let connections ← match t.connections with
    | none => pure none
    | some d =>
      if n = 0 then pure none
      else do
        let pairs ← d.pairs.mapError .input
        pure (some pairs)
  match cells with
  | .flat _ => pure (.list { base with connections })
  | .shaped shape _ => pure (.block { base := { base with connections }, shape })

/-- The columns of a topology as it is given, with their report. -/
def extract (t : GivenTopology) : Reported Extraction := do
  let cells ← Reported.ofExcept t.read
  cells.extract

/-- The columns of a topology as it is given, with the number of the column of every cell. -/
def extraction (t : GivenTopology) : Except Fault Extraction := t.extract.outcome

/-- The columns of a topology as it is given. -/
def columns (t : GivenTopology) : Except Fault (List (Block Nat)) := do
  let cells ← t.read
  let found ← cells.extract.outcome
  pure found.columns

/-- The numbers of the columns of a topology as it is given. -/
def columnIndex (t : GivenTopology) : Except Fault (List Int) := do
  let cells ← t.read
  cells.columnIndex

/-- A dimension of a map, which has to be given as an integer. -/
def mapLength : Datum → Except InputFault Int
  | .bool b => pure b.toNat
  | .int n => pure n
  | _ => throw .notNumber

/-- What a map needs of the topology. -/
def mapBase (t : GivenTopology) (cells : GivenCells) : Except InputFault MapBase := do
  match t.dimensions with
  | [nx, ny, nz] => do
    let height ← mapLength ny
    let width ← mapLength nx
    pure { nx := width, ny := height, nz, positions := cells.positions, sort := t.cells.sort }
  | _ => throw .dimensionCount

/-- The map of the columns of a topology as it is given. -/
def heightMap (t : GivenTopology) : Except Fault HeightMap := do
  let cells ← t.read
  let found ← cells.extract.outcome
  let base ← (t.mapBase cells).mapError .input
  (HeightMap.draw base MapColumn.ofBlock found.columns).mapError .input

end GivenTopology

namespace Grid

/-- What a map needs of a grid. -/
def mapBase (g : Grid) : MapBase :=
  { nx := g.nx
    ny := g.ny
    nz := .int g.nz
    positions := g.globalCells.map fun (p : Nat) => [(p : Int)]
    sort := .signed }

/-- The map of the columns of a box. -/
def heightMap (g : Grid) : Except Fault HeightMap := do
  let found ← g.topology.extract.outcome
  (HeightMap.draw g.mapBase MapColumn.ofBlock found.columns).mapError .input

end Grid

end Reservoir
