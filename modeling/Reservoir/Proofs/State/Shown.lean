import Reservoir.Proofs.Number.RoundTrip
import Reservoir.Proofs.State.Table
import Reservoir.State.BarChart

/-!
# Pressures that are shown

A chart and a table show both pressures of every well. Either leaves a pressure out that is the
mark for one that does not apply, or is a NaN, and shows every other pressure as it is, the chart
in megapascals. The table takes the mark from the state while a chart is given one, so the two
leave out the same pressures only as far as the two marks do.
-/

namespace Reservoir

/-- A pressure, and what is shown of it: a bar that is drawn under one mark, and a cell that is
listed under another one. -/
structure Shown (drawn listed p : Float) (bar : Bar) (cell : Float) : Prop where
  bar_iff : bar.height.isNaN = true ↔ (p == drawn) = true ∨ p.isNaN = true
  height : bar.height.isNaN = false → (bar.height == p / 1e6) = true
  cell_iff : cell.isNaN = true ↔ (p == listed) = true ∨ p.isNaN = true
  cell_eq : cell.isNaN = false → cell = p
  agree_iff : bar.height.isNaN = cell.isNaN ↔ p.isNaN = true ∨ (p == drawn) = (p == listed)

namespace Table

theorem isNaN_maskedPressure_iff (unset p : Float) :
    (maskedPressure unset p).isNaN = true ↔ (p == unset) = true ∨ p.isNaN = true := by
  rw [maskedPressure]
  split
  · next same => exact iff_of_true rfl (.inl same)
  · next other => rw [or_iff_right other]

theorem maskedPressure_eq {unset p : Float} (h : (maskedPressure unset p).isNaN = false) :
    maskedPressure unset p = p := by
  rw [maskedPressure] at h ⊢
  split at h
  · cases h
  · next other => rw [if_neg other]

end Table

namespace BarChart

variable {xs : List Float} {ticks : Nat}

theorem isNaN_height (p : Float) : (height p).isNaN = p.isNaN :=
  (Number.isNaN_zero_add_sub_zero _).trans (Number.isNaN_div_of_unpack p rfl)

theorem height_beq {p : Float} (h : p.isNaN = false) : (height p == p / 1e6) = true := by
  rw [height, Number.zero_add_sub_zero_beq, Number.isNaN_div_of_unpack p rfl, h]
  rfl

/-- There is a bar for every pressure, however the bars are coloured. -/
theorem exists_bars (h : xs.length = ticks) (alpha : Nat) (colors : List Color) :
    ∃ bs, bars ticks alpha colors (.flat xs) = .ok bs ∧ bs.map Bar.height = xs.map height := by
  have heights : heights ticks (.flat xs) = .ok (xs.map height) := by
    rw [BarChart.heights, Table.fit_of_length ((List.length_map _).trans h), ite_self]
  refine ⟨_, congrArg (· >>= _) heights, ?_⟩
  rw [List.map_map]
  exact List.zipIdx_map_fst 0 (xs.map height)

/-- Two series of bars over labelled ticks. -/
def draw (ticks : Nat) (colors : List Color) (labels : List String) (bhp thp : Block Float) :
    Except InputFault BarChart := do
  let bhp ← bars ticks alphas.1 colors bhp
  let thp ← bars ticks alphas.2 colors thp
  let shown ← tickLabels ticks labels
  pure { bhp, thp, labels := shown, ticks := List.range ticks }

theorem exists_draw {ys : List Float} {labels : List String} (hx : xs.length = ticks)
    (hy : ys.length = ticks) (hl : labels.length = ticks) (colors : List Color) :
    ∃ c, draw ticks colors labels (.flat xs) (.flat ys) = .ok c ∧
      c.bhp.map Bar.height = xs.map height ∧ c.thp.map Bar.height = ys.map height := by
  obtain ⟨bhp, first, bhpHeights⟩ := exists_bars hx alphas.1 colors
  obtain ⟨thp, second, thpHeights⟩ := exists_bars hy alphas.2 colors
  refine ⟨⟨bhp, thp, labels, List.range ticks⟩, ?_, bhpHeights, thpHeights⟩
  rw [draw, first, second, tickLabels, if_pos hl]
  rfl

end BarChart

/-- A pressure is shown according to the two marks. -/
theorem shown_maskedPressure {drawn listed p : Float} {bar : Bar}
    (h : bar.height = BarChart.height (Table.maskedPressure drawn p)) :
    Shown drawn listed p bar (Table.maskedPressure listed p) := by
  have drawn_iff := Table.isNaN_maskedPressure_iff drawn p
  have listed_iff := Table.isNaN_maskedPressure_iff listed p
  have gone := BarChart.isNaN_height (Table.maskedPressure drawn p)
  rw [← h] at gone
  refine ⟨?_, ?_, listed_iff, Table.maskedPressure_eq, ?_⟩
  · rw [gone, drawn_iff]
  · intro stands
    rw [gone] at stands
    rw [h, Table.maskedPressure_eq stands]
    rw [Table.maskedPressure_eq stands] at stands
    exact BarChart.height_beq stands
  · rw [gone, Bool.eq_iff_iff, drawn_iff, listed_iff]
    cases p.isNaN <;> cases p == drawn <;> cases p == listed <;> decide

/-- Every pressure of a list is shown in its place. -/
theorem exists_shown {drawn listed : Float} {pressures cells : List Float} {bars : List Bar}
    {w : Nat} (hw : w < pressures.length)
    (hb : bars.map Bar.height =
      (pressures.map (Table.maskedPressure drawn)).map BarChart.height)
    (hc : cells = pressures.map (Table.maskedPressure listed)) :
    ∃ p bar cell, pressures[w]? = some p ∧ bars[w]? = some bar ∧ cells[w]? = some cell ∧
      Shown drawn listed p bar cell := by
  have place := List.getElem?_eq_getElem hw
  have heights := congrArg (fun hs : List Float => hs[w]?) hb
  simp only [List.getElem?_map, place, Option.map_some, Option.map_eq_some_iff] at heights
  obtain ⟨bar, drawn, height⟩ := heights
  refine ⟨_, bar, _, place, drawn, ?_, shown_maskedPressure height⟩
  rw [hc, List.getElem?_map, place]
  rfl

/-- Both pressures of a well, as a chart and a table of a state show them. The table goes by the
mark of the state. -/
structure ShownWell (chart : BarChart) (table : Table) (state : WellState) (drawn : Float)
    (w : Nat) : Prop where
  bhp : ∃ p bar cell, state.bhp.entries[w]? = some p ∧ chart.bhp[w]? = some bar ∧
    table.cell? "bhp" w = some cell ∧ Shown drawn state.settings.unsetPressure p bar cell
  thp : ∃ p bar cell, state.thp.entries[w]? = some p ∧ chart.thp[w]? = some bar ∧
    table.cell? "thp" w = some cell ∧ Shown drawn state.settings.unsetPressure p bar cell

namespace WellState

/-- The bars of a chart are as high as the pressures of a state under a mark. -/
structure DrawnBy (s : WellState) (mark : Float) (c : BarChart) : Prop where
  bhp : c.bhp.map Bar.height =
    (s.bhp.entries.map (Table.maskedPressure mark)).map BarChart.height
  thp : c.thp.map Bar.height =
    (s.thp.entries.map (Table.maskedPressure mark)).map BarChart.height

end WellState

namespace WellState.LaidOut

variable {s : WellState} {l : Layout}

theorem exists_chart (h : s.LaidOut l) {wells : Option WellSet}
    (count : ∀ ws ∈ wells, ws.size = l.wells) (mark : Float) :
    ∃ c, s.chart wells mark = .ok c ∧ s.DrawnBy mark c := by
  have bhp : s.bhp = .flat s.bhp.entries := h.plain .bhp
  have thp : s.thp = .flat s.thp.entries := h.plain .thp
  have first : (s.bhp.entries.map (Table.maskedPressure mark)).length = l.wells :=
    (List.length_map _).trans (h.length .bhp)
  have second : (s.thp.entries.map (Table.maskedPressure mark)).length = l.wells :=
    (List.length_map _).trans (h.length .thp)
  rw [WellState.chart, h.size, bhp, thp]
  refine (BarChart.exists_draw first second ?_ _).imp fun c made => ⟨made.1, made.2.1, made.2.2⟩
  cases wells with
  | none => exact (List.length_map _).trans List.length_range
  | some ws => exact (List.length_map _).trans (count ws rfl)

/-- The table has a row for every well. -/
theorem exists_table (h : s.LaidOut l) (readable : l.Readable) {names : Option (List String)}
    (count : ∀ ns ∈ names, ns.length = l.wells) :
    ∃ t, s.table names = .ok t ∧ s.ListedBy t := by
  have readable := h.readable readable
  exact ⟨_, h.sizedFor.table count readable, (h.sizedFor.transposed count readable).toListedBy⟩

theorem shownWell (h : s.LaidOut l) {c : BarChart} {t : Table} {mark : Float} {w : Nat}
    (drawn : s.DrawnBy mark c) (listed : s.ListedBy t) (hw : w < l.wells) :
    ShownWell c t s mark w := by
  have bhp : w < s.bhp.entries.length := Nat.lt_of_lt_of_eq hw (h.length .bhp).symm
  have thp : w < s.thp.entries.length := Nat.lt_of_lt_of_eq hw (h.length .thp).symm
  constructor
  · rw [Table.cell?, listed.bhp]
    exact exists_shown bhp drawn.bhp rfl
  · rw [Table.cell?, listed.thp]
    exact exists_shown thp drawn.thp rfl

end WellState.LaidOut

end Reservoir
