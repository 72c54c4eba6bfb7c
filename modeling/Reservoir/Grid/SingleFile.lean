import Reservoir.Grid.Adjacency

/-!
# Single-file connections

Vertical connections have to describe columns in single file: no cell has two cells directly
below it or two directly above it, no connection is listed twice, and every connection stays
in its column and goes down. `checkSingleFile` reports the first rule that is broken.
-/

namespace Reservoir

/-- Whether a connection stays at its horizontal position and goes down. A cell without
coordinates has no answer. -/
def goesDown? (i j k : Array Int) (c : Nat × Nat) : Option Bool := do
  let iu ← i[c.1]?
  let il ← i[c.2]?
  let ju ← j[c.1]?
  let jl ← j[c.2]?
  let ku ← k[c.1]?
  let kl ← k[c.2]?
  pure (iu == il && ju == jl && decide (ku < kl))

/-- The first connection that leaves its column or does not go down. -/
def checkAligned (i j k : List Int) (pairs : List (Nat × Nat)) : Except GridFault Unit :=
  match pairs.mapM (goesDown? i.toArray j.toArray k.toArray) with
  | none => .error .noCoordinates
  | some downs =>
    match (pairs.zip downs).find? (!·.2) with
    | some ((u, l), _) => .error (.askew u l)
    | none => .ok ()

/-- No connection leaves the cells or is listed twice, and no cell has several cells directly
below it or above it. -/
def checkCounts (connections : List (Int × Int)) (cells : Nat) : Except GridFault Unit :=
  if !connections.all (Adjacency.inside cells) then .error .unknownCell
  else
    let adjacency := Adjacency.ofPairs cells (Adjacency.naturals connections)
    if adjacency.hasRepeats then .error .repeated
    else match adjacency.crowdedBelow?, adjacency.crowdedAbove? with
      | some (c, n), _ => .error (.crowded c n .below)
      | none, some (c, n) => .error (.crowded c n .above)
      | none, none => .ok ()

/-- The connections of cells with coordinates `i`, `j` and `k` are in single file. -/
def checkSingleFile (connections : List (Int × Int)) (i j k : List Int) :
    Except GridFault Unit :=
  if connections.isEmpty then .ok ()
  else do
    checkCounts connections i.length
    checkAligned i j k (Adjacency.naturals connections)

/-- The check of connections that are given together with the coordinates of all cells. -/
def Connections.check (given : Datum) (i j k : List Int) : Except Fault Unit := do
  let connections ← given.pairs.mapError .input
  (checkSingleFile connections i j k).mapError .grid

end Reservoir
