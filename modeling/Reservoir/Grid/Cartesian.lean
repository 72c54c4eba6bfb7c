import Reservoir.Datum.Numbers
import Reservoir.Grid.Topology
import Reservoir.Position

/-!
# Box grids with inactive cells

The positions of an `nx` by `ny` by `nz` box are numbered `i + j * nx + k * nx * ny`, with `k`
downwards. Only the active positions are cells; cells are numbered in the order of their
positions. Two cells are connected vertically when one stands directly below the other, so an
inactive position interrupts its column.
-/

namespace Reservoir

/-- A box of positions, some of them active. -/
structure Grid where
  nx : Nat
  ny : Nat
  nz : Nat
  /-- Which positions are active. -/
  active : List Bool
  nx_pos : 0 < nx
  ny_pos : 0 < ny
  nz_pos : 0 < nz
  length_active : active.length = nx * ny * nz

namespace Grid

/-- A grid of given dimensions, all active or as a mask says. -/
def create (nx ny nz : Int) (mask : Option (List Bool)) : Except GridFault Grid :=
  if h : 0 < nx.toNat ∧ 0 < ny.toNat ∧ 0 < nz.toNat then
    let size := nx.toNat * ny.toNat * nz.toNat
    let active := mask.getD (List.replicate size true)
    if hl : active.length = size then
      .ok { nx := nx.toNat, ny := ny.toNat, nz := nz.toNat, active
            nx_pos := h.1, ny_pos := h.2.1, nz_pos := h.2.2, length_active := hl }
    else .error (.maskSize active.length size)
  else .error (.dimensions (.int nx) (.int ny) (.int nz))

variable (g : Grid)

/-- The number of positions in a layer. -/
def layer : Nat := g.nx * g.ny

/-- The number of positions. -/
def size : Nat := g.nx * g.ny * g.nz

/-- Positions of the `true` entries of a list, counted from `start`. -/
def truePositions (start : Nat) : List Bool → List Nat
  | [] => []
  | true :: rest => start :: truePositions (start + 1) rest
  | false :: rest => truePositions (start + 1) rest

/-- The `true` entries of a list numbered from `start`, each at its place. -/
def numbered (start : Nat) : List Bool → List (Option Nat)
  | [] => []
  | true :: rest => some start :: numbered (start + 1) rest
  | false :: rest => none :: numbered start rest

/-- The position of every cell. -/
def globalCells : List Nat := truePositions 0 g.active

/-- The cell at every position, where there is one. -/
def cellNumbers : List (Option Nat) := numbered 0 g.active

/-- The number of cells. -/
def cellCount : Nat := g.globalCells.length

/-- Coordinates of a position. -/
def coordinates (p : Nat) : Nat × Nat × Nat :=
  (p % g.nx, p % g.layer / g.nx, p / g.layer)

/-- The coordinates of all cells, as one list for each axis. -/
def coordinateLists : List Nat × List Nat × List Nat :=
  let all := g.globalCells.map g.coordinates
  (all.map (·.1), all.map (·.2.1), all.map (·.2.2))

/-- The position with given coordinates, which are not checked. -/
def position (i j k : Int) : Int := i + j * g.nx + k * g.nx * g.ny

/-- The cell with given coordinates, or -1 at an inactive position. Negative positions count
from the end. -/
def cellAt (i j k : Int) : Except InputFault Int :=
  match atPlace? g.cellNumbers (g.position i j k) with
  | some (some c) => .ok c
  | some none => .ok (-1)
  | none => .error .noPosition

/-- Coordinates of a cell, counted from either end. -/
def cellCoordinates (c : Int) : Except InputFault (Nat × Nat × Nat) :=
  match atPlace? g.globalCells c with
  | some p => .ok (g.coordinates p)
  | none => .error .noPosition

/-- The upper and the lower cell of every pair that stands directly one above the other. -/
def verticalConnections : List (Nat × Nat) :=
  let cells := g.cellNumbers.toArray
  let uppers := g.globalCells.filter fun p => decide (p / g.layer + 1 < g.nz)
  uppers.filterMap fun p =>
    match cells[p]?, cells[p + g.layer]? with
    | some (some upper), some (some lower) => some (upper, lower)
    | _, _ => none

/-- The connections as a matrix. -/
def verticalAdjacency : Adjacency :=
  .ofPairs g.cellCount g.verticalConnections

/-- What the extraction of columns needs. -/
def topology : Topology :=
  { nx := g.nx
    ny := g.ny
    nz := g.nz
    cells := g.globalCells.map Int.ofNat
    connections := some (g.verticalConnections.map fun c => (Int.ofNat c.1, Int.ofNat c.2)) }

/-- What is reported of a new grid. -/
def report : Journal := .event (.gridBuilt g.nx g.ny g.nz g.cellCount)

theorem length_numbered (start : Nat) (bs : List Bool) :
    (numbered start bs).length = bs.length := by
  induction bs generalizing start with
  | nil => rfl
  | cons b bs ih => cases b <;> simp [numbered, ih]

@[simp] theorem length_cellNumbers : g.cellNumbers.length = g.size := by
  simp [cellNumbers, length_numbered, g.length_active, size]

end Grid

end Reservoir
