import Reservoir.Proofs.State.ClosedForm
import Reservoir.Proofs.State.Record

/-!
# The layout of a state

The arrays of a state are laid out for a number of wells, of phases and of connections, which
are those of the wells that it is the first state of. Whatever the controls of the wells are,
edited ones included, a first state has a rate for each phase of each well.

Such a state can be read by well and by phase. Only without wells there is a limit: a table
without rows still cannot have rows of any length.
-/

namespace Reservoir

/-- The numbers that a state is laid out for, by default those of no wells. -/
structure Layout where
  wells : Nat := 0
  phases : Nat := 0
  connections : Nat := 0
deriving DecidableEq, Repr

namespace Layout

/-- The length of an array. -/
def lengthOf (l : Layout) : Field → Nat
  | .bhp => l.wells
  | .thp => l.wells
  | .temperature => l.wells
  | .wellRates => l.wells * l.phases
  | .perfRates => l.connections
  | .perfPress => l.connections

/-- The number of phases that a set of wells is initialized for. -/
def phaseCount (ws : WellSet) : Nat :=
  match WellState.readPhases ws.phases with
  | .ok p => p.toNat
  | .error _ => 0

/-- The layout for a set of wells, or for none. -/
def ofWells : Option WellSet → Layout
  | none => {}
  | some ws => { wells := ws.size, phases := phaseCount ws, connections := ws.totalConnections }

theorem phaseCount_eq {ws : WellSet} {np : Nat} (h : WellState.readPhases ws.phases = .ok np) :
    phaseCount ws = np := by
  rw [phaseCount, h]
  exact Int.toNat_natCast np

/-- The number of rows of a table that has rows, or the length of rows that some table has. -/
def Readable (l : Layout) : Prop := 0 < l.wells ∨ (l.phases : Int) < WellState.rowLimit

instance (l : Layout) : Decidable l.Readable := inferInstanceAs (Decidable (_ ∨ _))

end Layout

namespace WellState

/-- A state with plain arrays of the lengths of a layout. -/
structure LaidOut (s : WellState) (l : Layout) : Prop where
  plain : s.Plain
  phases : s.phases = l.phases
  length : ∀ f, s.toArrays.lengthOf f = l.lengthOf f

theorem laidOut_blank (settings : Settings) : (blank settings).LaidOut {} := by
  refine ⟨?_, rfl, ?_⟩
  · intro f
    cases f <;> rfl
  · intro f
    cases f <;> rfl

theorem plain_ofSeeds (settings : Settings) (phases : Int) (ws : WellSet) (seeds : List Seed) :
    (ofSeeds settings phases ws seeds).Plain := by
  intro f
  cases f <;> rfl

/-- A number of phases is counted when it is no number, or not below zero. -/
def Counted (phases : Choice Int) : Prop := ∀ p, readPhases phases = .ok p → 0 ≤ p

/-- The first state of wells is laid out for them. -/
theorem laidOut_of_initial {settings : Settings} {ws : Option WellSet} {given : Datum}
    {state : WellState} (counted : ∀ w ∈ ws, Counted w.phases)
    (h : (initial settings ws given).outcome = .ok state) : state.LaidOut (.ofWells ws) := by
  cases ws with
  | none =>
      cases h
      exact laidOut_blank settings
  | some ws =>
      obtain ⟨p, pressure, seeds, read, _, _, made, rfl⟩ := exists_seeds_of_initial h
      obtain ⟨np, rfl⟩ := Int.eq_ofNat_of_zero_le (counted ws rfl p read)
      have count : seeds.length = ws.size := (mapM_eq_ok_iff.mp made).length_eq.symm
      have width : ∀ s ∈ seeds, s.rates.length = np := by
        intro s hs
        obtain ⟨w, _, seeded⟩ := exists_mem_of_mapM made hs
        exact Seed.length_rates seeded
      have rates : (seeds.flatMap (·.rates)).length = ws.size * np := by
        rw [length_flatMap_of_length width, count]
      have phases : Layout.phaseCount ws = np := Layout.phaseCount_eq read
      refine ⟨plain_ofSeeds settings np ws seeds, congrArg Nat.cast phases.symm, ?_⟩
      rw [Layout.ofWells, phases]
      intro f
      cases f with
      | bhp | thp => exact (List.length_map _).trans count
      | temperature | perfRates | perfPress => exact List.length_replicate
      | wellRates => exact rates

/-- Wells are not initialized for fewer than no phases. -/
theorem counted_of_initial {settings : Settings} {ws : WellSet} {given : Datum}
    {state : WellState} (wells : ws.wells ≠ [])
    (h : (initial settings (some ws) given).outcome = .ok state) : Counted ws.phases := by
  obtain ⟨p, _, _, read, ⟨rates, made⟩, _⟩ := exists_seeds_of_initial h
  have some : (0 : Int) < ws.size := Int.natCast_pos.mpr (List.length_pos_of_ne_nil wells)
  intro q same
  cases read.symm.trans same
  rw [zeroRates] at made
  split at made
  · cases made
  · next nonneg => exact Int.nonneg_of_mul_nonneg_right (Int.not_lt.mp nonneg) some

/-- The number of phases of a set that was made is counted. -/
theorem counted_of_create {phases : Choice Int} {ws : WellSet}
    (h : WellSet.create phases = .ok ws) : Counted ws.phases := by
  obtain ⟨few, counted, h⟩ := bind_eq_ok_iff.mp h
  split at h
  · cases h
  · next enough =>
    cases h
    intro p read
    cases phases with
    | member q =>
        cases read
        cases counted
        simp only [decide_eq_true_eq] at enough
        omega
    | other d =>
        cases d with
        | bool b =>
            cases read
            exact Int.natCast_nonneg _
        | _ => cases read

section LaidOut

variable {s t : WellState} {l : Layout}

theorem laidOut_iff :
    s.LaidOut l ↔ s.phases = l.phases ∧
      ∀ f, ∃ xs, s.toArrays.get f = .flat xs ∧ xs.length = l.lengthOf f := by
  constructor
  · intro h
    exact ⟨h.phases, fun f => ⟨_, h.plain f, h.length f⟩⟩
  · rintro ⟨phases, arrays⟩
    refine ⟨?_, phases, ?_⟩
    · intro f
      obtain ⟨xs, flat, _⟩ := arrays f
      rw [flat]
      rfl
    · intro f
      obtain ⟨xs, flat, length⟩ := arrays f
      rw [Arrays.lengthOf, flat]
      exact length

/-- A record that is read keeps the layout. -/
theorem LaidOut.unpack {record : List Float} {outcome : Except InputFault Unit}
    (h : s.LaidOut l) (unpacked : s.unpack record = .ok (t, outcome)) :
    s.Restored t record ∧ t.LaidOut l := by
  by_cases length : record.length = s.recordLength
  · obtain ⟨t', unpacked', restored⟩ := unpack_of_length h.plain length
    cases unpacked'.symm.trans unpacked
    refine ⟨restored, restored.plain, restored.phases.trans h.phases, fun f => ?_⟩
    exact (restored.length f).trans (h.length f)
  · cases (unpack_of_length_ne h.plain.recordPlain length).symm.trans unpacked

theorem LaidOut.size (h : s.LaidOut l) : s.size? = .ok l.wells :=
  (length?_of_plain h.plain .bhp).trans (congrArg Except.ok (h.length .bhp))

theorem LaidOut.rowLength (h : s.LaidOut l) :
    s.rateWidth = WellState.rowLength (l.wells * l.phases) l.wells l.phases := by
  have count : s.wellRates.entries.length = l.wells * l.phases := h.length .wellRates
  rw [WellState.rateWidth, h.size, ← count, ← h.phases]
  rfl

/-- The rates are as wide as there are phases. -/
theorem LaidOut.rateWidth (h : s.LaidOut l) (readable : l.Readable) :
    s.rateWidth = .ok l.phases := by
  have narrow : ¬(l.wells = 0 ∧ rowLimit ≤ l.phases) := by
    rw [Layout.Readable] at readable
    omega
  rw [h.rowLength, WellState.rowLength, if_pos (Int.natCast_nonneg _), Int.toNat_natCast,
    if_neg (not_not.mpr rfl), if_neg narrow]

theorem LaidOut.ratesByWell (h : s.LaidOut l) (readable : l.Readable) :
    s.ratesByWell = .ok (rowsOf l.wells l.phases s.wellRates.entries) := by
  rw [WellState.ratesByWell, h.size, h.rateWidth readable]
  rfl

/-- Rates of no wells, for too many phases, cannot be read by well. -/
theorem LaidOut.rateWidth_of_not_readable (h : s.LaidOut l) (wide : ¬l.Readable) :
    s.rateWidth = .error .excessiveLength := by
  have wide : l.wells = 0 ∧ rowLimit ≤ l.phases := by
    rw [Layout.Readable] at wide
    omega
  rw [h.rowLength, WellState.rowLength, if_pos (Int.natCast_nonneg _), Int.toNat_natCast,
    if_neg (not_not.mpr rfl), if_pos wide]

/-- The rate of a phase of a well has its place among all rates. -/
theorem LaidOut.exists_rate (h : s.LaidOut l) {w p : Nat} (hw : w < l.wells) (hp : p < l.phases) :
    ∃ x, s.wellRates.entries[w * l.phases + p]? = some x := by
  have count : s.wellRates.entries.length = l.wells * l.phases := h.length .wellRates
  have inside : (w + 1) * l.phases ≤ l.wells * l.phases := Nat.mul_le_mul_right _ hw
  rw [Nat.succ_mul] at inside
  exact ⟨_, List.getElem?_eq_getElem (by omega)⟩

/-- The record of a state that is laid out. -/
theorem LaidOut.recordLength (h : s.LaidOut l) :
    s.recordLength = 2 * l.wells + 2 * l.connections + l.wells * l.phases := by
  rw [WellState.recordLength, List.map_congr_left fun f _ => h.length f]
  simp only [Field.recorded, List.map_cons, List.map_nil, List.sum_cons, List.sum_nil,
    Layout.lengthOf]
  omega

end LaidOut

end WellState

end Reservoir
