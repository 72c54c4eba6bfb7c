import Reservoir.Datum.Numbers
import Reservoir.Grid.Tally

/-!
# Adjacency of cells

Connections are pairs of an upper and a lower cell. Their adjacency is a square matrix of
counts, kept as the list of its non-zero entries by row and column: an entry above one is a
connection listed more than once. Connections that are given are read first, and the matrix then
has to be of a size that an array of its rows can have.
-/

namespace Reservoir

/-- A square matrix of counts. -/
structure Adjacency where
  size : Nat
  /-- Position and count of every entry, by row and then by column. -/
  entries : List ((Nat × Nat) × Nat)

namespace Adjacency

/-- The order of the entries. -/
def before (p q : Nat × Nat) : Bool :=
  decide (p.1 < q.1) || (p.1 == q.1 && decide (p.2 < q.2))

/-- The matrix of a list of pairs of row and column. -/
def ofPairs (size : Nat) (pairs : List (Nat × Nat)) : Adjacency :=
  ⟨size, tally before pairs⟩

/-- One more than the largest cell number; nothing is needed for no connections. -/
def leastSize (connections : List (Int × Int)) : Int :=
  connections.foldl (fun n c => max n (max (c.1 + 1) (c.2 + 1))) 0

/-- Connections between cells numbered from zero. -/
def naturals (connections : List (Int × Int)) : List (Nat × Nat) :=
  connections.map fun c => (c.1.toNat, c.2.toNat)

/-- Whether both ends of a connection lie from zero up to, not including, a size. -/
def inside (size : Int) (c : Int × Int) : Bool :=
  decide (0 ≤ c.1) && decide (0 ≤ c.2) && decide (c.1 < size) && decide (c.2 < size)

/-- The matrix of a list of connections, of a given size or of the least that holds them. -/
def ofConnections (connections : List (Int × Int)) (size : Option Int) :
    Except InputFault Adjacency :=
  let n := size.getD (leastSize connections)
  if 0 ≤ n ∧ connections.all (inside n) then
    .ok (ofPairs n.toNat (naturals connections))
  else .error .outsideMatrix

/-- The size that no matrix has, `2 ^ 60 - 1`: an array of the beginnings of its rows and of the
end of the last one would have too many entries. -/
def sizeLimit : Int := 1152921504606846975

/-- The matrix of connections as they are given. Its size has to be an integer of 64 bits. -/
def read (given : Datum) (size : Option Int) : Except InputFault Adjacency := do
  let connections ← given.pairs
  let n := size.getD (leastSize connections)
  if Datum.integerRange.2 < n then throw .tooLarge
  else
    let matrix ← ofConnections connections size
    if n < sizeLimit then pure matrix else throw .excessiveLength

/-- Whether some connection is listed more than once. -/
def hasRepeats (a : Adjacency) : Bool :=
  a.entries.any fun e => decide (1 < e.2)

/-- The least cell with several cells below it, and how many it has. -/
def crowdedBelow? (a : Adjacency) : Option (Nat × Nat) :=
  (tally (fun m n => decide (m < n)) (a.entries.map (·.1.1))).find? fun e => decide (1 < e.2)

/-- The least cell with several cells above it, and how many it has. -/
def crowdedAbove? (a : Adjacency) : Option (Nat × Nat) :=
  (tally (fun m n => decide (m < n)) (a.entries.map (·.1.2))).find? fun e => decide (1 < e.2)

end Adjacency

end Reservoir
