import Reservoir.Block
import Reservoir.Grid.SingleFile
import Reservoir.Journal

/-!
# Vertical columns

A topology is what the extraction of columns needs of a grid: logical dimensions, the logical
position of every cell, and, where the grid has them, its vertical connections. A logical
position `g` splits into a horizontal place and a layer by floor division, so that dimensions
of any sign are admitted.

`Topology.columns` cuts the cells into columns: cells at one horizontal place, from the top
layer down, the columns themselves by place.
-/

namespace Reservoir

/-- Dimensions, cells and connections of a grid. -/
structure Topology where
  nx : Int
  ny : Int
  nz : Int
  /-- The logical position of every cell. -/
  cells : List Int
  connections : Option (List (Int × Int)) := none

namespace Topology

variable (t : Topology)

/-- The number of positions in a layer. -/
def layer : Int := t.nx * t.ny

def coordI (g : Int) : Int := g.fmod t.nx

def coordJ (g : Int) : Int := (g.fmod t.layer).fdiv t.nx

def coordK (g : Int) : Int := g.fdiv t.layer

/-- The horizontal place of a position. -/
def place (g : Int) : Int := t.coordI g + t.coordJ g * t.nx

/-- All cells lie inside the dimensions. -/
def checkInside : Except GridFault Unit :=
  if t.cells.all fun g => decide (0 ≤ g) && decide (g < t.nx * t.ny * t.nz) then .ok ()
  else .error .cellsOutside

/-- The connections, where there are any, are in single file. -/
def checkConnections : Except GridFault Unit :=
  match t.connections with
  | none => .ok ()
  | some cs =>
    checkSingleFile cs (t.cells.map t.coordI) (t.cells.map t.coordJ) (t.cells.map t.coordK)

/-- A cell with its place and layer. -/
structure Located where
  cell : Nat
  place : Int
  depth : Int

/-- Place first, then layer. -/
def Located.le (a b : Located) : Bool :=
  decide (a.place < b.place) || (a.place == b.place && decide (a.depth ≤ b.depth))

/-- All cells, by place and from the top down. -/
def sortedCells : List Located :=
  (t.cells.zipIdx.map fun (g, c) => ⟨c, t.place g, t.coordK g⟩).mergeSort Located.le

/-- No cell stands at the place and layer of the one before it. -/
def distinctNeighbours : List Located → Bool
  | a :: b :: rest =>
    !(a.place == b.place && a.depth == b.depth) && distinctNeighbours (b :: rest)
  | _ => true

/-- Cells cut where the place changes. -/
def cut (cells : List Located) : List (List Nat) :=
  (cells.splitBy fun a b => a.place == b.place).map fun column => column.map (·.cell)

/-- The columns of a grid. -/
def columns : Except GridFault (List (List Nat)) := do
  t.checkInside
  if t.cells.isEmpty then pure []
  else
    t.checkConnections
    if distinctNeighbours t.sortedCells then pure (cut t.sortedCells)
    else throw .sharedPosition

/-- The number of the column of every cell, by cell. Every cell belongs to one column. -/
def numberOfColumn (columns : List (List Nat)) : List Int :=
  let start := Array.replicate columns.flatten.length (-1 : Int)
  let numbers := columns.zipIdx.foldl
    (fun acc column => column.1.foldl (fun acc c => acc.setIfInBounds c (column.2 : Int)) acc) start
  numbers.toList

/-- The column of every cell. -/
def columnIndex : Except GridFault (List Int) := do
  let cs ← t.columns
  pure (numberOfColumn cs)

/-- What is reported of extracted columns: nothing if there were no cells. -/
def report (columns : List (List Nat)) : Journal :=
  if columns.isEmpty then {}
  else .event (.columnsExtracted columns.length columns.flatten.length)

end Topology

/-- The columns of a grid and the number of the column of every cell. -/
structure Extraction where
  columns : List (Block Nat)
  index : List Int

namespace Topology

/-- The columns and the numbers of the columns. The columns are extracted once for either. -/
def extract (t : Topology) : Reported Extraction := do
  let columns ← Reported.ofExcept (t.columns.mapError .grid)
  Reported.tell (report columns)
  let index ← Reported.ofExcept (t.columnIndex.mapError .grid)
  Reported.tell (report columns)
  pure { columns := columns.map .flat, index }

end Topology

end Reservoir
