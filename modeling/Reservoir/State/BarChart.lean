import Reservoir.State.Table
import Reservoir.Well.WellSet

/-!
# Bar charts

A bar chart shows the pressures of every well in megapascals, as two series of bars. Bars of
injectors are blue and those of producers red; without wells all bars are grey. A pressure
that does not apply has no height.
-/

namespace Reservoir

/-- A colour with its opacity, in 256 steps. -/
structure Color where
  red : Nat
  green : Nat
  blue : Nat
  alpha : Nat
deriving DecidableEq, Repr

namespace Color

def hex (c : Color) : String :=
  String.ofList ('#' :: [c.red, c.green, c.blue, c.alpha].flatMap (Text.hex 2))

def blueBar : Color := ⟨0, 0, 255, 255⟩

def redBar : Color := ⟨255, 0, 0, 255⟩

def greyBar : Color := ⟨128, 128, 128, 255⟩

/-- Bars for which there is no colour are not filled. -/
def clear : Color := ⟨0, 0, 0, 0⟩

/-- A colour with another opacity, if it has any. -/
def withAlpha (c : Color) (alpha : Nat) : Color :=
  if c = clear then clear else { c with alpha }

end Color

/-- The height of a bar and its colour. -/
structure Bar where
  height : Float
  color : Color

/-- Two series of bars over labelled ticks. -/
structure BarChart where
  bhp : List Bar
  thp : List Bar
  labels : List String
  ticks : List Nat

namespace BarChart

def title : String := "Initial Well Pressures"

/-- The labels of the two axes. -/
def axisLabels : String × String := ("Well", "Pressure [MPa]")

def legend : List String := ["BHP", "THP"]

/-- Opacities of the two series. -/
def alphas : Nat × Nat := (0xb2, 0x4c)

/-- The height of a bar that stands on zero. Adding and taking off zero leaves no negative
zero. -/
def height (pressure : Float) : Float :=
  0.0 + pressure / 1e6 - 0.0

/-- Heights over `ticks` ticks. One height serves all ticks, and one tick all heights. Rows of
heights are no heights, unless there are none. -/
def heights (ticks : Nat) (pressures : Block Float) : Except InputFault (List Float) :=
  match pressures with
  | .flat xs => if ticks = 1 then .ok (xs.map height) else Table.fit ticks (xs.map height)
  | .shaped [] xs => Table.fit ticks (xs.map height)
  | .shaped (rows :: inner) _ =>
    let width := (rows :: inner).getLastD 0
    if width ≠ ticks ∧ width ≠ 1 ∧ ticks ≠ 1 then .error .unequalLengths
    else if rows = 0 then .ok []
    else .error .notNumber

/-- Bars over `ticks` ticks. Colours are used in turn. -/
def bars (ticks alpha : Nat) (colors : List Color) (pressures : Block Float) :
    Except InputFault (List Bar) := do
  let hs ← heights ticks pressures
  pure (hs.zipIdx.map fun (h, n) =>
    { height := h, color := (colors[n % colors.length]?.getD .clear).withAlpha alpha })

/-- The labels of the ticks. Without any label the ticks are blank. -/
def tickLabels (ticks : Nat) (labels : List String) : Except InputFault (List String) :=
  if labels.length = ticks then .ok labels
  else if labels.isEmpty then .ok (List.replicate ticks "")
  else .error .unequalLengths

/-- The colour of a well's bars. -/
def wellColor (w : Well) : Color :=
  if w.isInjector then .blueBar else .redBar

end BarChart

namespace WellState

/-- The chart of a state, with colours and labels of wells if they are given. The value that
marks a pressure as not applying is given here, and need not be that of the state. -/
def chart (s : WellState) (wells : Option WellSet) (unset : Float) :
    Except InputFault BarChart := do
  let n ← s.size?
  let colors := match wells with
    | some ws => ws.wells.map BarChart.wellColor
    | none => List.replicate n .greyBar
  let labels := match wells with
    | some ws => ws.names
    | none => (List.range n).map toString
  let bhp ← BarChart.bars n BarChart.alphas.1 colors (Table.masked unset s.bhp)
  let thp ← BarChart.bars n BarChart.alphas.2 colors (Table.masked unset s.thp)
  let shown ← BarChart.tickLabels n labels
  pure { bhp, thp, labels := shown, ticks := List.range n }

end WellState

end Reservoir
