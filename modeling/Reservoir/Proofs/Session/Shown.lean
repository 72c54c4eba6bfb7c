import Reservoir.Proofs.Session.FirstState
import Reservoir.Proofs.Session.Renewal
import Reservoir.Proofs.State.Shown

/-!
# States that are drawn and listed

A state that was made from wells can be drawn and listed, with or without these wells. A chart
that is asked for without settings goes by the default mark, whatever settings the state was made
under, while the table goes by the mark of the state. A state with another mark than the default
one may therefore have a pressure that is listed as missing and yet drawn; a chart under the
settings of the state leaves out what the table does.
-/

namespace Reservoir

/-- The mark that a chart goes by. -/
def SettingsRequest.mark? (request : SettingsRequest) : Except Fault Float := do
  let given ← request.read
  (given.number .unsetPressure).mapError .input

theorem SettingsRequest.mark?_of_settings? {request : SettingsRequest} {settings : Settings}
    (asked : request.settings? = .ok settings) : request.mark? = .ok settings.unsetPressure := by
  obtain ⟨given, read, numbers⟩ := bind_eq_ok_iff.mp asked
  obtain ⟨mark, number, numbers⟩ := bind_eq_ok_iff.mp (mapError_eq_ok_iff.mp numbers)
  obtain ⟨_, _, numbers⟩ := bind_eq_ok_iff.mp numbers
  obtain ⟨_, _, numbers⟩ := bind_eq_ok_iff.mp numbers
  obtain ⟨_, _, numbers⟩ := bind_eq_ok_iff.mp numbers
  obtain ⟨_, _, numbers⟩ := bind_eq_ok_iff.mp numbers
  cases numbers
  exact bind_eq_ok_iff.mpr ⟨given, read, mapError_eq_ok_iff.mpr number⟩

namespace Session

/-- A chart under some settings, or none, and a table are answered and show a well. -/
def AnswersWell (s : Session) (id : String) (wells : Option String) (request : SettingsRequest)
    (state : WellState) (drawn : Float) (w : Nat) : Prop :=
  ∃ chart table,
    (s.step (.plain (.chart id wells request))).2.outcome = .ok (.chart chart) ∧
      (s.step (.plain (.table id wells))).2.outcome = .ok (.table table) ∧
      ShownWell chart table state drawn w

/-- A well of a state that was made under some settings is drawn under the default mark when no
settings are given, and under that of the state when these are. -/
structure ShowsWell (s : Session) (id : String) (wells : Option String)
    (request : SettingsRequest) (state : WellState) (w : Nat) : Prop where
  view : s.view id = .ok state
  asked : request.settings? = .ok state.settings
  unconfigured : s.AnswersWell id wells none state (-1e100) w
  configured : s.AnswersWell id wells request state state.settings.unsetPressure w

variable {s : Session} {id set : String} {ws : WellSet} {pressure : Datum}
  {request : SettingsRequest} {state : WellState} {l : Layout} {w : Nat}

theorem answersWell {wells : Option String} {shown : Option WellSet} {mark : Float}
    (view : s.view id = .ok state) (laidOut : state.LaidOut l) (hw : w < l.wells)
    (found : s.optionalWells wells = .ok shown) (count : ∀ ws ∈ shown, ws.size = l.wells)
    (read : request.mark? = .ok mark) : s.AnswersWell id wells request state mark w := by
  have named : ∀ ns ∈ shown.map (·.names), ns.length = l.wells := by
    intro ns hns
    obtain ⟨ws, member, rfl⟩ := Option.mem_map.mp hns
    exact (List.length_map _).trans (count ws member)
  obtain ⟨given, asked, number⟩ := bind_eq_ok_iff.mp read
  obtain ⟨c, charted, drawn⟩ := laidOut.exists_chart count mark
  obtain ⟨t, tabled, listed⟩ := laidOut.exists_table (.inl (Nat.zero_lt_of_lt hw)) named
  refine ⟨c, t, ?_, ?_, laidOut.shownWell drawn listed hw⟩
  · rw [outcome_step_plain, answer, view, found, asked]
    simp only [bind, Except.bind, number, charted]
    rfl
  · rw [outcome_step_plain, answer, view, found]
    simp only [bind, Except.bind, tabled]
    rfl

/-- An answered seed has asked for the settings of the state that its name then stands for. -/
theorem exists_initial_of_seed {wells : Option String} {reply : Reply}
    (answered : (s.step (.seed id wells pressure request)).2.outcome = .ok reply) :
    ∃ settings shown state, request.settings? = .ok settings ∧
      s.optionalWells wells = .ok shown ∧
      (WellState.initial settings shown pressure).outcome = .ok state ∧
      (s.step (.seed id wells pressure request)).1 = s.bindState id state := by
  generalize after : (s.step (.seed id wells pressure request)).1 = t
  have change := (s.allOrNothing_seed id wells pressure request).change_of_ok answered
  rw [after] at change
  cases change with
  | seed asked found made => exact ⟨_, _, _, asked, found, made, rfl⟩

/-- The first state of a set of wells shows all of them, whether the wells are given or not. -/
theorem showsWell_bindState {settings : Settings} {wells : Option String}
    (asked : request.settings? = .ok settings) (bound : s.wellSets.find? set = some ws)
    (made : (WellState.initial settings (some ws) pressure).outcome = .ok state)
    (named : wells = none ∨ wells = some set) (hw : w < ws.size) :
    (s.bindState id state).ShowsWell id wells request state w := by
  have nonempty : ws.wells ≠ [] := List.ne_nil_of_length_pos (Nat.zero_lt_of_lt hw)
  have laidOut : state.LaidOut (.ofWells (some ws)) := by
    apply WellState.laidOut_of_initial _ made
    rintro v ⟨⟩
    exact WellState.counted_of_initial nonempty made
  have view := view_bindState s id state
  have own := SettingsRequest.mark?_of_settings? asked
  have default : SettingsRequest.mark? none = .ok (-1e100) := rfl
  rw [← WellState.settings_of_initial made] at asked own
  obtain ⟨shown, found, count⟩ : ∃ shown, (s.bindState id state).optionalWells wells = .ok shown ∧
      ∀ v ∈ shown, v.size = (Layout.ofWells (some ws)).wells := by
    rcases named with rfl | rfl
    · exact ⟨none, rfl, nofun⟩
    · refine ⟨some ws, optionalWells_of_bound (s := s) bound, ?_⟩
      rintro v ⟨⟩
      rfl
  exact ⟨view, asked, answersWell view laidOut hw found count default,
    answersWell view laidOut hw found count own⟩

/-- Whatever settings a state is made under, every pressure of every well is left out of the chart
and of the table as their marks say, and is shown as it is otherwise. -/
theorem seed_showsWell {reply : Reply} (bound : s.wellSets.find? set = some ws)
    (answered : (s.step (.seed id (some set) pressure request)).2.outcome = .ok reply) :
    ∃ state, ∀ wells, wells = none ∨ wells = some set → ∀ w < ws.size,
      (s.step (.seed id (some set) pressure request)).1.ShowsWell id wells request state w := by
  obtain ⟨settings, _, state, asked, found, made, after⟩ := exists_initial_of_seed answered
  cases (optionalWells_of_bound bound).symm.trans found
  rw [after]
  exact ⟨state, fun wells named w hw => showsWell_bindState asked bound made named hw⟩

/-- A producer under a bottom hole pressure, with no other control. -/
def openProducer : WellSet where
  phases := .member 2
  wells :=
    [{ name := "A", role := .member .producer, cells := [0],
       stack := { controls := [⟨.member .bhp, .member 1e7, none⟩], active := 0 } }]

/-- A session with such a well alone. -/
def producerField : Session := ({} : Session).bindWells "field" openProducer

/-- A mark that is not the default one. -/
def smallMark : SettingsRequest := some [("UNSET_PRESSURE", .ok (.double (-1.0)))]

/-- A state of that well, made under this mark. -/
def markedState : Command := .seed "state" (some "field") (.ofFloats [2e7]) smallMark

theorem bound_producerField : producerField.wellSets.find? "field" = some openProducer :=
  Registry.find?_insert_self ..

theorem exists_reply_markedState :
    ∃ reply, (producerField.step markedState).2.outcome = .ok reply :=
  ⟨_, rfl⟩

theorem seed_showsWell_markedState :
    ∃ reply, (producerField.step markedState).2.outcome = .ok reply ∧
      ∃ state, ∀ wells, wells = none ∨ wells = some "field" → ∀ w < openProducer.size,
        (producerField.step markedState).1.ShowsWell "state" wells smallMark state w := by
  obtain ⟨reply, answered⟩ := exists_reply_markedState
  exact ⟨reply, answered, seed_showsWell bound_producerField answered⟩

/-- A chart without settings draws a pressure that the table leaves out. -/
theorem not_hidden_markedState :
    (∃ reply, (producerField.step markedState).2.outcome = .ok reply) ∧
      ∃ chart table bar cell,
        ((producerField.step markedState).1.step (.plain (.chart "state" none none))).2.outcome =
            .ok (.chart chart) ∧
          ((producerField.step markedState).1.step (.plain (.table "state" none))).2.outcome =
            .ok (.table table) ∧
          chart.thp[0]? = some bar ∧ table.cell? "thp" 0 = some cell ∧
          bar.height.isNaN = false ∧ cell.isNaN = true := by
  refine ⟨exists_reply_markedState, ?_⟩
  obtain ⟨settings, state, asked, made, after, thp, mark⟩ : ∃ settings state,
      smallMark.settings? = .ok settings ∧
        (WellState.initial settings (some openProducer) (.ofFloats [2e7])).outcome = .ok state ∧
        (producerField.step markedState).1 = producerField.bindState "state" state ∧
        state.thp.entries[0]? = some (-1.0) ∧ settings.unsetPressure = -1.0 :=
    ⟨_, _, rfl, rfl, rfl, rfl, rfl⟩
  have shows : (producerField.bindState "state" state).ShowsWell "state" none smallMark state 0 :=
    showsWell_bindState asked bound_producerField made (.inl rfl) Nat.zero_lt_one
  obtain ⟨chart, table, charted, tabled, well⟩ := shows.unconfigured
  obtain ⟨p, bar, cell, place, drawn, listed, shown⟩ := well.thp
  cases place.symm.trans thp
  rw [← WellState.settings_of_initial made] at mark
  rw [mark] at shown
  have gone : cell.isNaN = true := shown.cell_iff.mpr (.inl rfl)
  have stands : bar.height.isNaN = false := by
    rw [← Bool.not_eq_true, shown.bar_iff]
    exact not_or.mpr ⟨by decide +kernel, by decide +kernel⟩
  rw [after]
  exact ⟨chart, table, bar, cell, charted, tabled, drawn, listed, stands, gone⟩

end Session

end Reservoir
