import Reservoir.Block
import Reservoir.Settings
import Reservoir.State.Arrays

/-!
# The state of a set of wells

A well state holds one pressure pair and one temperature for every well, one rate for every
well and phase, and one pressure and one rate for every connection. Its arrays can be
replaced by others of any length and shape, so what depends on these is checked on use.
-/

namespace Reservoir

/-- The arrays of a state, the number of phases they are laid out for, and the settings they
were made under. -/
structure WellState extends Arrays (Block Float) where
  settings : Settings
  phases : Int

/-- A state as it is shown. Each of its arrays has a length. -/
structure StateView where
  wells : Nat
  phases : Int
  arrays : Arrays (Block Float)

namespace WellState

/-- A state without wells. -/
def blank (settings : Settings) : WellState :=
  { bhp := .flat []
    thp := .flat []
    temperature := .flat []
    wellRates := .flat []
    perfRates := .flat []
    perfPress := .flat []
    settings
    phases := 0 }

/-- The number of wells is the number of bottom hole pressures. -/
def size? (s : WellState) : Except InputFault Nat := s.bhp.length?

/-- The state as it is shown. -/
def view (s : WellState) : Except InputFault StateView := do
  let wells ← s.size?
  Field.all.forM fun f => do
    let _ ← (s.toArrays.get f).length?
  pure { wells, phases := s.phases, arrays := s.toArrays }

/-- The length that no row has, even of a table without rows, `2 ^ 60`. -/
def rowLimit : Int := 1152921504606846976

/-- The length of the rows when `entries` values are laid out in `rows` rows. A negative
`width` leaves the length to be worked out. -/
def rowLength (entries rows : Nat) (width : Int) : Except InputFault Nat :=
  if 0 ≤ width then
    if rows * width.toNat ≠ entries then .error .unequalLengths
    else if rows = 0 ∧ rowLimit ≤ width then .error .excessiveLength
    else .ok width.toNat
  else if rows ≠ 0 ∧ entries % rows = 0 then .ok (entries / rows)
  else .error .unequalLengths

/-- The length of the rows of the rates, one row for each well. -/
def rateWidth (s : WellState) : Except InputFault Nat := do
  let n ← s.size?
  rowLength s.wellRates.entries.length n s.phases

/-- The rates of every well, by phase. -/
def ratesByWell (s : WellState) : Except InputFault (List (List Float)) := do
  let n ← s.size?
  let width ← s.rateWidth
  pure (rowsOf n width s.wellRates.entries)

/-- The flat place of the rate of phase `p` of well `w`, both counted from either end. -/
def ratePlace (s : WellState) (w p : Int) : Except InputFault Nat := do
  let n ← s.size?
  let width ← s.rateWidth
  match place? n w, place? width p with
  | some row, some column => pure (row * width + column)
  | _, _ => throw .noPosition

end WellState

end Reservoir
