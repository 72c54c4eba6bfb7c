import Reservoir.State.Basic

/-!
# Tables

A table shows a state with one row for every well, or one for every name given. A pressure
that does not apply is shown as a NaN. A column is as long as the index; a column of a single
value is repeated to that length. An array of several axes is no column.
-/

namespace Reservoir

/-- What the rows of a table are called. -/
inductive RowLabel where
  | name (s : String)
  | number (n : Nat)
deriving DecidableEq, Repr

/-- Named columns over labelled rows. -/
structure Table where
  columns : List (String × List Float)
  index : List RowLabel

namespace Table

/-- The name of the index. -/
def indexName : String := "well"

/-- A column of a given length. -/
def fit (rows : Nat) (values : List Float) : Except InputFault (List Float) :=
  match values with
  | [x] => .ok (List.replicate rows x)
  | xs => if xs.length = rows then .ok xs else .error .unequalLengths

/-- Pressures with NaNs for those that do not apply. -/
def masked (unset : Float) (pressures : Block Float) : Block Float :=
  pressures.withEntries (pressures.entries.map fun p => if p == unset then Datum.nan else p)

/-- A named column fitted to the index. -/
def fitColumn (rows : Nat) (column : String × Block Float) :
    Except InputFault (String × List Float) :=
  match column.2 with
  | .flat xs => (fit rows xs).map (column.1, ·)
  | .shaped [] xs => (fit rows xs).map (column.1, ·)
  | .shaped (_ :: _) _ => .error .unequalLengths

end Table

namespace WellState

/-- The columns of the table of a state, each of its own length. -/
def tableColumns (s : WellState) : Except InputFault (List (String × Block Float)) := do
  let rows ← s.ratesByWell
  let unset := s.settings.unsetPressure
  let rates := (List.range s.phases.toNat).map fun p =>
    ("rate_" ++ toString p, Block.flat (rows.map fun row => row[p]?.getD 0.0))
  pure
    ([("bhp", Table.masked unset s.bhp), ("thp", Table.masked unset s.thp),
      ("temperature", s.temperature)] ++ rates)

/-- The table of a state, its rows called by names or, without names, by numbers. -/
def table (s : WellState) (names : Option (List String)) : Except InputFault Table := do
  let columns ← s.tableColumns
  let n ← s.size?
  let index := match names with
    | some ns => ns.map RowLabel.name
    | none => (List.range n).map RowLabel.number
  let fitted ← columns.mapM (Table.fitColumn index.length)
  pure { columns := fitted, index }

end WellState

end Reservoir
