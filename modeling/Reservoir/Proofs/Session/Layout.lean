import Reservoir.Proofs.Session.Frame
import Reservoir.Proofs.Session.Restart
import Reservoir.Proofs.State.Layout

/-!
# The layout of a state over a session

`Session.layoutAfter` follows a session and says what a state is laid out for: the wells that it
was made from last, as they were then. Nothing else changes a layout. What is written into the
arrays of a state, a record included, leaves their lengths, and a state is only made anew as a
whole. Only a field that is replaced may get another length.
-/

namespace Reservoir

theorem StateRef.laidOut_view_iff {ref : StateRef} {h : Heap} {l : Layout} :
    (ref.view h).LaidOut l ↔ ref.phases = l.phases ∧
      ∀ f, ∃ xs, h.read (ref.toArrays.get f) = .flat xs ∧ xs.length = l.lengthOf f := by
  rw [WellState.laidOut_iff]
  show ref.phases = l.phases ∧ (∀ f, ∃ xs, (ref.toArrays.map h.read).get f = .flat xs ∧ _) ↔ _
  simp only [Arrays.get_map]

namespace Session

/-- The state under a name, if there is one, is laid out. -/
def LaysOut (s : Session) (name : String) (l : Layout) : Prop :=
  ∀ ref, s.states.find? name = some ref → (ref.view s.heap).LaidOut l

/-- The number of phases of every set of wells is counted. -/
def CountedSets (s : Session) : Prop :=
  ∀ set ws, s.wellSets.find? set = some ws → WellState.Counted ws.phases

variable {s t : Session} {name : String} {l : Layout}

theorem LaysOut.of_eq (h : s.LaysOut name l) (states : t.states = s.states)
    (heap : t.heap = s.heap) : t.LaysOut name l := by
  intro ref bound
  rw [states] at bound
  rw [heap]
  exact h ref bound

/-- Arrays that hold the same values keep the layout. -/
theorem LaysOut.of_read_eq (h : s.LaysOut name l)
    (states : t.states.find? name = s.states.find? name)
    (same : ∀ ref, s.states.find? name = some ref →
      ∀ f, t.heap.read (ref.toArrays.get f) = s.heap.read (ref.toArrays.get f)) :
    t.LaysOut name l := by
  intro ref bound
  rw [states] at bound
  have laidOut := h ref bound
  rw [StateRef.laidOut_view_iff] at laidOut ⊢
  simp only [same ref bound]
  exact laidOut

/-- A new state of the name is laid out as it was made, and any other one changes nothing. -/
theorem LaysOut.bindState (h : s.LaysOut name l) (separate : s.Separate) {state : WellState}
    {made : Layout} (laidOut : state.LaidOut made) (other : String) :
    (s.bindState other state).LaysOut name (if other = name then made else l) := by
  by_cases same : other = name
  · rw [if_pos same]
    intro ref bound
    rw [Session.bindState, Registry.find?_insert, if_pos same] at bound
    cases bound
    show ((StateRef.create s.heap state).2.view (StateRef.create s.heap state).1).LaidOut made
    rw [StateRef.view_create]
    exact laidOut
  · rw [if_neg same]
    apply h.of_read_eq
    · rw [Session.bindState, Registry.find?_insert, if_neg same]
    · intro ref bound f
      exact Heap.read_allocAll_of_lt state.toArrays (separate.allocated name ref bound f)

/-- A flat array that is written with one of the same length keeps the layout. -/
theorem LaysOut.write (h : s.LaysOut name l) (separate : s.Separate) {other : String}
    {ref : StateRef} (bound : s.states.find? other = some ref) (field : Field) {b : Block Float}
    (flat : ∀ xs, s.heap.read (ref.toArrays.get field) = .flat xs →
      ∃ ys, b = .flat ys ∧ ys.length = xs.length) :
    ({ s with heap := s.heap.write (ref.toArrays.get field) b } : Session).LaysOut name l := by
  intro found bound'
  have laidOut := h found bound'
  rw [StateRef.laidOut_view_iff] at laidOut ⊢
  refine ⟨laidOut.1, fun f => ?_⟩
  obtain ⟨xs, before, length⟩ := laidOut.2 f
  by_cases written : found.toArrays.get f = ref.toArrays.get field
  · rw [written] at before ⊢
    obtain ⟨ys, rfl, kept⟩ := flat xs before
    exact ⟨ys, Heap.read_write_self _ (separate.allocated other ref bound field),
      kept.trans length⟩
  · exact ⟨xs, (Heap.read_write_of_ne _ written).trans before, length⟩

/-- A replaced field of another state changes nothing. -/
theorem LaysOut.replace (h : s.LaysOut name l) (separate : s.Separate) {other : String}
    (ne : other ≠ name) (ref : StateRef) (b : Block Float)
    (states : t.states = s.states.insert other ref) (heap : t.heap = (s.heap.alloc b).1) :
    t.LaysOut name l := by
  apply h.of_read_eq
  · rw [states, Registry.find?_insert, if_neg ne]
  · intro found bound f
    rw [heap]
    exact Heap.read_alloc_of_lt b (separate.allocated name found bound f)

/-- A record that is read into a state keeps every layout. -/
theorem LaysOut.unpack (h : s.LaysOut name l) (separate : s.Separate) {other : String}
    {ref : StateRef} (bound : s.states.find? other = some ref) {record : List Float}
    {state : WellState} {outcome : Except InputFault Unit}
    (unpacked : (ref.view s.heap).unpack record = .ok (state, outcome)) :
    ({ s with heap := s.heap.writeFields Field.recorded ref.toArrays state.toArrays } :
      Session).LaysOut name l := by
  by_cases same : other = name
  · subst same
    intro found bound'
    cases bound.symm.trans bound'
    have laidOut := h ref bound
    obtain ⟨restored, kept⟩ := laidOut.unpack unpacked
    have after := separate.view_writeFields bound restored.settings restored.phases restored.thp
    rw [← after] at kept
    exact kept
  · apply h.of_read_eq
    · rfl
    · intro found bound' f
      apply Heap.read_writeFields_of_forall_ne
      intro g _ shared
      exact same (separate.apart name found other ref bound' bound f g shared).1.symm

end Session

/-- Commands that replace no field of the state under a name and leave every set of wells a
number of phases that is counted. -/
def Command.KeepsArrays (name : String) : Command → Prop
  | .plain (.replace other _ _) => other ≠ name
  | .plain (.setPhases _ phases) => WellState.Counted phases
  | _ => True

/-- The wells that a command makes the state under a name from. A new state has none. -/
def Command.wellsFor? (name : String) : Command → Option (Option String)
  | .seed id wells _ _ => if id = name then some wells else none
  | .reseed other wells _ => if other = name then some wells else none
  | .plain (.makeState id _) => if id = name then some none else none
  | _ => none

namespace Session

/-- The layout for the wells that a state is made from, if it is, and otherwise another one. -/
def layoutFor (s : Session) (l : Layout) : Option (Option String) → Layout
  | some wells => .ofWells (wells.bind s.wellSets.find?)
  | none => l

/-- What the state under a name is laid out for after a command: the wells that it was made
from, if the command made it, and otherwise what it was laid out for before. -/
def layoutStep (s : Session) (name : String) (l : Layout) (c : Command) : Layout :=
  match (s.step c).2.outcome with
  | .ok _ => s.layoutFor l (c.wellsFor? name)
  | .error _ => l

/-- What the state under a name is laid out for after a list of commands. -/
def layoutAfter (s : Session) (name : String) (l : Layout) : List Command → Layout
  | [] => l
  | c :: cs => layoutAfter (s.step c).1 name (s.layoutStep name l c) cs

variable {s t : Session} {name : String} {l : Layout}

theorem bind_find?_of_optionalWells {wells : Option String} {ws : Option WellSet}
    (h : s.optionalWells wells = .ok ws) : wells.bind s.wellSets.find? = ws := by
  cases wells with
  | none =>
      cases h
      rfl
  | some set =>
      obtain ⟨found, bound, h⟩ := bind_eq_ok_iff.mp h
      cases h
      exact Registry.get_eq_ok_iff.mp bound

theorem counted_of_optionalWells (counted : s.CountedSets) {wells : Option String}
    {ws : Option WellSet} (found : s.optionalWells wells = .ok ws) :
    ∀ w ∈ ws, WellState.Counted w.phases := by
  intro w hw
  rw [← bind_find?_of_optionalWells found] at hw
  obtain ⟨set, _, bound⟩ := Option.bind_eq_some_iff.mp hw
  exact counted set w bound

/-- A state that is made from wells is laid out for them. -/
theorem LaysOut.made (h : s.LaysOut name l) (separate : s.Separate) (counted : s.CountedSets)
    {wells : Option String} {ws : Option WellSet} {settings : Settings} {pressure : Datum}
    {state : WellState} (found : s.optionalWells wells = .ok ws)
    (made : (WellState.initial settings ws pressure).outcome = .ok state) (id : String) :
    (s.bindState id state).LaysOut name
      (s.layoutFor l (if id = name then some wells else none)) := by
  have laidOut := WellState.laidOut_of_initial (counted_of_optionalWells counted found) made
  rw [← bind_find?_of_optionalWells found] at laidOut
  have bound := h.bindState separate laidOut id
  by_cases same : id = name
  · rw [if_pos same] at bound ⊢
    exact bound
  · rw [if_neg same] at bound ⊢
    exact bound

/-- The state that an accepted command leaves is laid out for the wells it was made from. -/
theorem LaysOut.change {command : Command} (h : s.LaysOut name l) (separate : s.Separate)
    (counted : s.CountedSets) (kept : command.KeepsArrays name) (change : s.Change command t) :
    t.LaysOut name (s.layoutFor l (command.wellsFor? name)) := by
  cases change with
  | seed asked found made => exact h.made separate counted found made _
  | reseed bound found made => exact h.made separate counted found made _
  | makeState asked =>
      -- A new state is the first state of no wells.
      rename_i id request settings
      have made : (WellState.initial settings none .null).outcome = .ok (.blank settings) := rfl
      exact h.made separate counted (show s.optionalWells none = .ok none from rfl) made id
  | makeWells | addWell | control | setRole | setPhases | hold => exact h.of_eq rfl rfl
  | ask asks =>
      rename_i command
      have none : (Command.plain command).wellsFor? name = none := by
        cases command with
        | makeState => exact asks.elim
        | _ => rfl
      rw [none]
      exact h
  | poke bound written =>
      apply h.write separate bound
      intro xs flat
      rw [flat] at written
      exact Datum.flat_of_writeRow written
  | pokeRate bound place read =>
      apply h.write separate bound .wellRates
      intro xs flat
      rename_i ref n x
      have flat : s.heap.read ref.wellRates = .flat xs := flat
      rw [flat]
      exact ⟨_, rfl, List.length_set⟩
  | replace bound read => exact h.replace separate kept _ _ rfl rfl
  | unpack bound read unpacked => exact h.unpack separate bound unpacked
  | unpackFrom bound _ packed unpacked => exact h.unpack separate bound unpacked

theorem CountedSets.of_wellSets_eq (h : s.CountedSets) (same : t.wellSets = s.wellSets) :
    t.CountedSets := by
  intro set ws bound
  rw [same] at bound
  exact h set ws bound

theorem CountedSets.bindWells (h : s.CountedSets) {phases : Choice Int} {ws : WellSet}
    (counted : WellState.Counted phases) (same : ws.phases = phases) (set : String) :
    (s.bindWells set ws).CountedSets := by
  intro other found bound
  rw [Session.bindWells, Registry.find?_insert] at bound
  split at bound
  · cases bound
    rw [same]
    exact counted
  · exact h other found bound

theorem CountedSets.change {command : Command} (h : s.CountedSets)
    (kept : command.KeepsArrays name) (change : s.Change command t) : t.CountedSets := by
  cases change with
  | seed | reseed | makeState | poke | pokeRate | replace | hold | unpack | unpackFrom =>
      exact h.of_wellSets_eq rfl
  | ask => exact h
  | makeWells made => exact h.bindWells (WellState.counted_of_create made) rfl _
  | addWell bound made => exact h.bindWells (h _ _ bound) (by rfl) _
  | control bound well changed => exact h.bindWells (h _ _ bound) (by rfl) _
  | setRole bound place => exact h.bindWells (h _ _ bound) (by rfl) _
  | setPhases bound => exact h.bindWells kept (by rfl) _

/-- A command that makes a state reads no record. -/
theorem readsInto?_eq_none_of_wellsFor? {command : Command} {wells : Option String}
    (makes : command.wellsFor? name = some wells) : command.readsInto? = none := by
  cases command with
  | seed | reseed => rfl
  | plain command =>
      cases command with
      | unpack | unpackFrom => cases makes
      | _ => rfl

/-- The arrays of states are their own, and the state under a name is laid out. -/
structure KeepsLayout (s : Session) (name : String) (l : Layout) : Prop where
  separate : s.Separate
  counted : s.CountedSets
  laidOut : s.LaysOut name l

theorem KeepsLayout.change {command : Command} (h : s.KeepsLayout name l)
    (kept : command.KeepsArrays name) (change : s.Change command t) :
    t.KeepsLayout name (s.layoutFor l (command.wellsFor? name)) :=
  ⟨h.separate.change change, h.counted.change kept change,
    h.laidOut.change h.separate h.counted kept change⟩

theorem KeepsLayout.step {command : Command} (h : s.KeepsLayout name l)
    (kept : command.KeepsArrays name) :
    (s.step command).1.KeepsLayout name (s.layoutStep name l command) := by
  rw [layoutStep]
  cases outcome : (s.step command).2.outcome with
  | ok reply => exact h.change kept (change_of_answered outcome)
  | error e =>
      rcases step_cases s command with same | change
      · rw [same]
        exact h
      · -- Only a record may be refused after a change, and reading one makes no state.
        cases makes : command.wellsFor? name with
        | none =>
            have after := h.change kept change
            rw [makes] at after
            exact after
        | some wells =>
            rw [step_eq_of_error (readsInto?_eq_none_of_wellsFor? makes) outcome]
            exact h

theorem KeepsLayout.run {commands : List Command} (h : s.KeepsLayout name l)
    (kept : ∀ c ∈ commands, c.KeepsArrays name) :
    (s.run commands).KeepsLayout name (s.layoutAfter name l commands) := by
  induction commands generalizing s l with
  | nil => exact h
  | cons c commands ih =>
      rw [run_cons, layoutAfter]
      exact ih (h.step (kept c List.mem_cons_self)) fun d hd =>
        kept d (List.mem_cons_of_mem c hd)

/-- The rates of a state are read by well: a row for each well, with a rate for each phase, which
stands among all rates at its place. -/
def ReadsRates (s : Session) (name : String) (ref : StateRef) (l : Layout) : Prop :=
  ∃ rows, (s.step (.plain (.ratesByWell name))).2.outcome = .ok (.rates l.phases rows) ∧
    rows.length = l.wells ∧ (∀ row ∈ rows, row.length = l.phases) ∧
    ∀ w < l.wells, ∀ p < l.phases, ∃ x, (rows[w]?.bind fun row => row[p]?) = some x ∧
      (ref.view s.heap).wellRates.entries[w * l.phases + p]? = some x

/-- A state is laid out, its rates are read by well, if there are wells or not too many phases,
and its offsets end with the number of its recorded values. -/
structure HoldsLayout (s : Session) (name : String) (ref : StateRef) (l : Layout) : Prop where
  laidOut : (ref.view s.heap).LaidOut l
  rates : l.Readable → s.ReadsRates name ref l
  unreadable : ¬l.Readable →
    (s.step (.plain (.ratesByWell name))).2.outcome = .error (.input .excessiveLength)
  offsets : ∃ o, (s.step (.plain (.offsets name))).2.outcome = .ok (.offsets o) ∧
    o.size = 2 * l.wells + 2 * l.connections + l.wells * l.phases

section HoldsLayout

variable {ref : StateRef} (bound : s.states.find? name = some ref)
include bound

theorem view_of_bound : s.view name = .ok (ref.view s.heap) := by
  rw [view, Registry.get_eq_ok_iff.mpr bound]
  rfl

theorem outcome_ratesByWell :
    (s.step (.plain (.ratesByWell name))).2.outcome = (do
      let width ← (ref.view s.heap).rateWidth.mapError .input
      let rows ← (ref.view s.heap).ratesByWell.mapError .input
      pure (.rates width rows)) := by
  rw [outcome_step_plain]
  simp only [answer, view_of_bound bound, bind, Except.bind, showing]
  cases (ref.view s.heap).rateWidth.mapError Fault.input with
  | error e => rfl
  | ok width => cases (ref.view s.heap).ratesByWell.mapError Fault.input <;> rfl

theorem outcome_offsets :
    (s.step (.plain (.offsets name))).2.outcome = (ref.view s.heap).offsets.map .offsets := by
  rw [outcome_step_plain]
  simp only [answer, view_of_bound bound, bind, Except.bind, showing]
  cases (ref.view s.heap).offsets <;> rfl

theorem readsRates (laidOut : (ref.view s.heap).LaidOut l) (readable : l.Readable) :
    s.ReadsRates name ref l := by
  have count : (ref.view s.heap).wellRates.entries.length = l.wells * l.phases :=
    laidOut.length .wellRates
  refine ⟨_, ?_, length_rowsOf .., fun row member => length_of_mem_rowsOf count member, ?_⟩
  · rw [outcome_ratesByWell bound, laidOut.rateWidth readable, laidOut.ratesByWell readable]
    rfl
  · intro w hw p hp
    obtain ⟨x, rate⟩ := laidOut.exists_rate hw hp
    exact ⟨x, (getElem?_rowsOf hw hp _).trans rate, rate⟩

theorem holdsLayout (laidOut : (ref.view s.heap).LaidOut l) : s.HoldsLayout name ref l := by
  refine ⟨laidOut, readsRates bound laidOut, ?_, ?_⟩
  · intro wide
    rw [outcome_ratesByWell bound, laidOut.rateWidth_of_not_readable wide]
    rfl
  · obtain ⟨o, offsets, size, _⟩ := WellState.offsets_of_plain laidOut.plain
    rw [laidOut.recordLength] at size
    refine ⟨o, ?_, by exact_mod_cast size⟩
    rw [outcome_offsets bound, offsets]
    rfl

end HoldsLayout

theorem keepsLayout_empty : ({} : Session).KeepsLayout name {} :=
  ⟨⟨nofun, nofun⟩, nofun, nofun⟩

/-- A state is laid out for the wells it was made from last, whatever else was done. -/
theorem holdsLayout_run {commands : List Command} {name : String} {ref : StateRef}
    (kept : ∀ c ∈ commands, c.KeepsArrays name)
    (bound : (({} : Session).run commands).states.find? name = some ref) :
    (({} : Session).run commands).HoldsLayout name ref
      (({} : Session).layoutAfter name {} commands) :=
  holdsLayout bound ((keepsLayout_empty.run kept).laidOut ref bound)

/-- A state of one well with two connections. It is then to be made anew from that well and
another one, which cannot be initialized. Entries, a rate and records are written into it, of
which one record is too short. -/
def writtenState : List Command :=
  [.plain (.makeState "state" none),
   .plain (.makeWells "field" (.member 2)),
   .plain (.addWell "field" "A" (.member .producer) (.list [.int 1, .int 0])),
   .plain (.control "field" 0 (.add (.member .bhp) (.float 2e7) .null)),
   .reseed "state" (some "field") .null,
   .plain (.addWell "field" "B" (.member .injector) (.list [])),
   .reseed "state" (some "field") .null,
   .plain (.poke "state" .thp 0 (.float 3e6)),
   .plain (.pokeRate "state" 0 1 (.float 5.0)),
   .plain (.unpack "state" (.ofFloats [1.0, 2.0])),
   .plain (.unpack "state" (.ofFloats [1.0, 2.0, 3.0, 4.0, 5.0, 6.0, 7.0, 8.0]))]

theorem holdsLayout_run_writtenState :
    (∀ c ∈ writtenState, c.KeepsArrays "state") ∧
      ({} : Session).layoutAfter "state" {} writtenState = ⟨1, 2, 2⟩ ∧
      ∃ ref, (({} : Session).run writtenState).states.find? "state" = some ref ∧
        (({} : Session).run writtenState).HoldsLayout "state" ref ⟨1, 2, 2⟩ := by
  have kept : ∀ c ∈ writtenState, c.KeepsArrays "state" := by
    simp [writtenState, Command.KeepsArrays]
  have layout : ({} : Session).layoutAfter "state" {} writtenState = ⟨1, 2, 2⟩ := by
    decide +kernel
  obtain ⟨ref, bound⟩ := Option.isSome_iff_exists.mp
    (show ((({} : Session).run writtenState).states.find? "state").isSome = true by decide +kernel)
  have holds := holdsLayout_run kept bound
  rw [layout] at holds
  exact ⟨kept, layout, ref, bound, holds⟩

/-- A state of no wells, for as many phases as no row has rates. -/
def widePhases : List Command :=
  [.plain (.makeWells "field" (.member 1152921504606846976)),
   .seed "state" (some "field") (.list []) none]

/-- The rates of no wells cannot always be read by well. -/
theorem not_readsRates_widePhases :
    (∀ c ∈ widePhases, c.KeepsArrays "state") ∧
      ∃ ref, (({} : Session).run widePhases).states.find? "state" = some ref ∧
        ¬(({} : Session).run widePhases).ReadsRates "state" ref
          (({} : Session).layoutAfter "state" {} widePhases) := by
  have kept : ∀ c ∈ widePhases, c.KeepsArrays "state" := by
    simp [widePhases, Command.KeepsArrays]
  have layout : ({} : Session).layoutAfter "state" {} widePhases =
      ⟨0, 1152921504606846976, 0⟩ := by decide +kernel
  obtain ⟨ref, bound⟩ := Option.isSome_iff_exists.mp
    (show ((({} : Session).run widePhases).states.find? "state").isSome = true by decide +kernel)
  have laidOut := (keepsLayout_empty.run kept).laidOut ref bound
  rw [layout] at laidOut ⊢
  have refused := (holdsLayout bound laidOut).unreadable (by decide)
  refine ⟨kept, ref, bound, ?_⟩
  rintro ⟨rows, read, _⟩
  cases refused.symm.trans read

end Session

end Reservoir
