import Reservoir.Block
import Reservoir.Datum.Sort

/-!
# Maps of column heights

A height map shows, for every horizontal position, how many cells its column holds. It is
drawn from the first cell of each column, so it needs the grid only for the positions of
cells. The columns may be extracted ones or any values that name cells: a first cell that is a
list of cells is drawn at the positions of all of them.
-/

namespace Reservoir

/-- What a map needs of a grid. -/
structure MapBase where
  nx : Int
  ny : Int
  /-- The number of layers, as it was given. -/
  nz : Datum
  /-- The logical positions of every cell. -/
  positions : List (List Int)
  /-- What the positions were given as. Only integers can address a point of the map. -/
  sort : NumberSort

/-- What a map needs of a column. -/
structure MapColumn where
  /-- The first cell, or all that stand in place of it. -/
  first : List Int
  height : Nat

namespace MapColumn

/-- An extracted column. -/
def ofBlock : Block Nat → Except InputFault MapColumn
  | .flat [] => .error .noPosition
  | .flat (c :: cs) => .ok { first := [(c : Int)], height := cs.length + 1 }
  | .shaped [] _ => .error .notList
  | .shaped (n :: inner) entries =>
    if n = 0 then .error .noPosition
    else .ok { first := (entries.take (volume inner)).map Int.ofNat, height := n }

/-- A cell that is given as an integer. -/
def cell? : Datum → Option Int
  | .int c => some c
  | _ => none

/-- A given column. Something that is no cell is found at no position. -/
def ofDatum : Datum → Except InputFault MapColumn
  | .list (d :: ds) =>
    match d.leaves.mapM cell? with
    | some first => .ok { first, height := ds.length + 1 }
    | none => .error .noPosition
  | .list [] => .error .noPosition
  | .text _ => .error .noPosition
  | _ => .error .notList

end MapColumn

/-- A map of column heights. -/
structure HeightMap where
  title : String
  /-- Heights by J and then by I. -/
  image : List (List Nat)
  /-- The heights with the weakest and the strongest colour. -/
  limits : Int × Int

namespace HeightMap

/-- The labels of the two axes. -/
def axisLabels : String × String := ("I", "J")

/-- An image with the point at row `j` and column `i` set; a point outside is a fault. -/
def setPoint (image : List (List Nat)) (j i : Int) (height : Nat) :
    Except InputFault (List (List Nat)) :=
  match place? image.length j with
  | none => .error .noPosition
  | some row =>
    match place? (image[row]?.getD []).length i with
    | none => .error .noPosition
    | some column => .ok (image.modify row (·.set column height))

/-- The height set at one logical position. -/
def setPosition (base : MapBase) (height : Nat) (image : List (List Nat)) (g : Int) :
    Except InputFault (List (List Nat)) :=
  setPoint image ((g.fmod (base.nx * base.ny)).fdiv base.nx) (g.fmod base.nx) height

/-- The logical positions of a cell, counted from either end. -/
def positionsOf (base : MapBase) (c : Int) : Except InputFault (List Int) :=
  match atPlace? base.positions c with
  | some gs => .ok gs
  | none => .error .noPosition

/-- Only integers address a point. -/
def checkSort : NumberSort → Except InputFault Unit
  | .flag => .ok ()
  | .signed => .ok ()
  | .unsigned => .ok ()
  | .double => .error .noPosition
  | .text => .error .notNumber
  | .mixed => .error .notNumber

/-- One column drawn at the positions of its first cell. -/
def drawColumn (base : MapBase) (image : List (List Nat)) (column : MapColumn) :
    Except InputFault (List (List Nat)) := do
  let positions ← column.first.mapM (positionsOf base)
  checkSort base.sort
  positions.flatten.foldlM (setPosition base column.height) image

/-- The limits of the colours: zero and the number of layers, in ascending order. -/
def colorLimits (nz : Datum) : Except InputFault (Int × Int) := do
  let x ← nz.scalar
  let n ← Datum.truncated x
  pure (min n 0, max n 0)

/-- The number of points that no image can have, `2 ^ 60`. -/
def sizeLimit : Int := 1152921504606846976

/-- The map of a list of columns, each of which is read when it is drawn. -/
def draw {α : Type} (base : MapBase) (read : α → Except InputFault MapColumn)
    (columns : List α) : Except InputFault HeightMap :=
  if base.nx < 0 ∨ base.ny < 0 then .error .negativeLength
  else if sizeLimit ≤ base.nx * base.ny then .error .excessiveLength
  else do
    let blank := List.replicate base.ny.toNat (List.replicate base.nx.toNat 0)
    let image ← columns.foldlM
      (fun image column => do
        let c ← read column
        drawColumn base image c)
      blank
    let limits ← colorLimits base.nz
    pure { title := toString columns.length ++ " Columns", image, limits }

/-- The map of columns that are given. -/
def drawGiven (base : MapBase) : Datum → Except InputFault HeightMap
  | .list columns => draw base MapColumn.ofDatum columns
  | _ => .error .notList

end HeightMap

end Reservoir
