import Reservoir.Grid.Topology

/-!
# Cells given as a block

The positions of cells may be given as a block of several axes. Its rows then take the part of
cells: connections are pairs of rows, and columns consist of rows. The entries of every
innermost line are ordered by place and layer; an entry of that ordering stands for the row of
that number, so that neighbouring rows of the ordering are compared as rows of rows. The
ordering is cut wherever two such neighbours differ in place.

For a plain list, which has one line, this is the extraction of columns from a topology.
-/

namespace Reservoir

/-- Cells in a block of at least two axes. The cells of `base` are the entries of the block. -/
structure CellBlock where
  base : Topology
  shape : List Nat

namespace CellBlock

variable (b : CellBlock)

/-- The number of rows. -/
def rows : Nat := b.shape.headD 0

/-- The lengths of all axes but the outermost. -/
def inner : List Nat := b.shape.drop 1

/-- The number of entries of a row. -/
def width : Nat := volume b.inner

/-- The entries with their places and layers, row by row. -/
def located : List (List Topology.Located) :=
  rowsOf b.rows b.width (b.base.cells.zipIdx.map fun (g, c) =>
    ⟨c, b.base.place g, b.base.coordK g⟩)

/-- The numbers of the entries of a line, by place and from the top down. -/
def lineOrder (line : List Topology.Located) : List Nat :=
  let numbered := line.zipIdx.map fun (l, n) => { l with cell := n }
  (numbered.mergeSort Topology.Located.le).map (·.cell)

/-- The ordering of every line, row by row. -/
def order : List (List Nat) :=
  let length := b.shape.getLastD 1
  b.located.map fun row => (rowsOf (row.length / length) length row).flatMap lineOrder

/-- The rows that the entries of a row of the ordering stand for, one after the other. A number
without a row is a fault. -/
def arranged : Except InputFault (List (List Topology.Located)) :=
  let rows := b.located
  b.order.mapM fun numbers => do
    let chosen ← numbers.mapM fun n =>
      match rows[n]? with
      | some row => pure row
      | none => throw .noPosition
    pure chosen.flatten

/-- Each entry of a list of rows with the entry below it in the next row. -/
def neighbours : List (List Topology.Located) → List (Topology.Located × Topology.Located)
  | r :: s :: rest => r.zip s ++ neighbours (s :: rest)
  | _ => []

/-- One more than the numbers of the neighbours that differ in place. -/
def cuts (pairs : List (Topology.Located × Topology.Located)) : List Nat :=
  pairs.zipIdx.filterMap fun (p, n) => if p.1.place = p.2.place then none else some (n + 1)

/-- The parts of a list between successive positions, starting from `start`. -/
def split {α : Type} (xs : List α) (start : Nat) : List Nat → List (List α)
  | [] => [xs.drop start]
  | c :: cs => (xs.drop start).take (c - start) :: split xs c cs

/-- The connections, where there are any, go down and join rows whose entries agree in place.
The entries of all connections are numbered through, and the first one that is wrong names the
connection of its number. -/
def checkConnections : Except GridFault Unit :=
  match b.base.connections with
  | none => .ok ()
  | some [] => .ok ()
  | some cs => do
    checkCounts cs b.rows
    let rows := b.located.toArray
    let pairs := Adjacency.naturals cs
    let downs := pairs.flatMap fun (u, l) =>
      ((rows[u]?.getD []).zip (rows[l]?.getD [])).map fun (p, q) =>
        p.place == q.place && decide (p.depth < q.depth)
    match downs.findIdx? (!·) with
    | none => .ok ()
    | some n =>
      match pairs[n]? with
      | some (u, l) => .error (.askew u l)
      | none => .error .noCoordinates

/-- The columns, each of them some rows of the ordering. -/
def columns : Except Fault (List (List (List Nat))) := do
  b.checkConnections.mapError .grid
  let arranged ← b.arranged.mapError .input
  let pairs := neighbours arranged
  if pairs.any fun (p, q) => p.place == q.place && p.depth == q.depth then
    throw (.grid .sharedPosition)
  else pure (split b.order 0 (cuts pairs))

/-- The number of the column of every cell, where -1 stands for none. -/
def numberOfColumn (columns : List (List (List Nat))) : List Int :=
  let start := Array.replicate b.rows (-1 : Int)
  let numbers := columns.zipIdx.foldl
    (fun acc column =>
      column.1.flatten.foldl (fun acc c => acc.setIfInBounds c (column.2 : Int)) acc)
    start
  numbers.toList

/-- The columns and the numbers of the columns. Both are reported. -/
def extract : Reported Extraction := do
  if b.rows = 0 then pure { columns := [], index := [] }
  else
    let columns ← Reported.ofExcept b.columns
    let report := Journal.event (.columnsExtracted columns.length b.rows)
    Reported.tell (report ++ report)
    pure
      { columns := columns.map fun rows => .ofShape (rows.length :: b.inner) rows.flatten
        index := b.numberOfColumn columns }

end CellBlock

end Reservoir
