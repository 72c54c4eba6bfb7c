import Reservoir.Proofs.Number.Nearest
import Reservoir.Proofs.Session.AddedWells
import Reservoir.Proofs.State.Seed

/-!
# Cells given as integers

Cell numbers are read as doubles before they are tested for being whole, and a double is whole
for every integer that it is rounded from. Integers of whatever size are therefore accepted, and
the cells of the well are the integers nearest to them among the doubles: the given ones exactly
when these have at most 53 significant bits.
-/

namespace Reservoir

namespace WellRequest

/-- A request for a well with integers for its cells, nested as a shape says. -/
def ofIntegers (name : String) (role : Role) (shape : List Nat) (ids : List Int) : WellRequest :=
  ⟨name, .member role, shape, ids.map .int⟩

/-- The well that is made of such a request: open, without controls, and with the nearest
integers for its cells. -/
def nearestWell (phases : Choice Int) (name : String) (role : Role) (ids : List Int) : Well :=
  { name, role := .member role, cells := ids.map Number.nearest, stack := .empty (some phases) }

variable {name : String} {role : Role} {shape : List Nat} {ids : List Int}

theorem given_ofIntegers (length : ids.length = volume shape)
    (small : ∀ n ∈ ids, n.natAbs < 2 ^ 62) : (ofIntegers name role shape ids).Given := by
  refine ⟨(List.length_map _).trans length, ?_⟩
  intro d hd
  obtain ⟨n, hn, rfl⟩ := List.mem_map.mp hd
  exact small n hn

theorem well?_ofIntegers (small : ∀ n ∈ ids, n.natAbs < 2 ^ 62) (phases : Choice Int) :
    (ofIntegers name role shape ids).well? phases =
      some (nearestWell phases name role ids) := by
  have read : (ids.map Datum.int).mapM (fun d => Number.whole? d.double) =
      some (ids.map Number.nearest) := by
    rw [List.mapM_map, mapM_eq_some_iff, List.forall₂_map_right_iff, List.forall₂_same]
    exact fun n hn => Number.whole?_ofInt (Nat.lt_trans (small n hn) (by decide))
  rw [well?, ofIntegers]
  simp only [read]
  rfl

end WellRequest

namespace Session

/-- What comes of a request for a well with integers for its cells: the well refers throughout
to the integers nearest to the given ones, which are off by half of the spacing at most. A nesting
that is too deep is refused. -/
structure TakesIntegers (s : Session) (set : String) (ws : WellSet) (name : String) (role : Role)
    (shape : List Nat) (ids : List Int) : Prop where
  added : shape.length ≤ Datum.depthLimit →
    (s.step ((WellRequest.ofIntegers name role shape ids).command set)).2.outcome =
        .ok (.well (WellRequest.nearestWell ws.phases name role ids)) ∧
      (s.step ((WellRequest.ofIntegers name role shape ids).command set)).1 =
        s.bindWells set (ws.push (WellRequest.nearestWell ws.phases name role ids))
  refused : Datum.depthLimit < (Datum.seenShape shape).length →
    (s.step ((WellRequest.ofIntegers name role shape ids).command set)).2.outcome =
        .error (.input .irregular) ∧
      (s.step ((WellRequest.ofIntegers name role shape ids).command set)).1 = s
  firstCell : ∀ n rest, ids = n :: rest →
    (WellRequest.nearestWell ws.phases name role ids).firstCell = .ok (Number.nearest n)
  wellCells : (ws.push (WellRequest.nearestWell ws.phases name role ids)).wellCells =
    ws.wellCells ++ ids.map Number.nearest
  topPressure : ∀ n rest pressure, ids = n :: rest → 0 ≤ Number.nearest n →
    (WellRequest.nearestWell ws.phases name role ids).topPressure? pressure =
      pressure[(Number.nearest n).toNat]?
  close : ∀ n ∈ ids, 2 * (Number.nearest n - n).natAbs ≤ Number.spacing n.natAbs
  kept_iff : ids.map Number.nearest = ids ↔ ∀ n ∈ ids, Number.spacing n.natAbs ∣ n.natAbs

variable {s : Session} {set : String} {ws : WellSet} {shape : List Nat} {ids : List Int}

/-- A well is made for every list of integers below `2 ^ 62` in magnitude. Its cells are the
integers given, in row-major order, exactly when each of these has at most 53 significant bits;
otherwise they are the nearest ones that have. -/
theorem takesIntegers (bound : s.wellSets.find? set = some ws) (name : String) (role : Role)
    (length : ids.length = volume shape) (small : ∀ n ∈ ids, n.natAbs < 2 ^ 62) :
    s.TakesIntegers set ws name role shape ids := by
  have given : (WellRequest.ofIntegers name role shape ids).Given :=
    WellRequest.given_ofIntegers length small
  have asked : (WellRequest.ofIntegers name role shape ids).well? ws.phases =
      some (WellRequest.nearestWell ws.phases name role ids) :=
    WellRequest.well?_ofIntegers small ws.phases
  refine ⟨?_, ?_, ?_, ?_, ?_, fun n _ => Number.two_mul_natAbs_nearest_sub n, ?_⟩
  · intro depth
    rcases step_request bound given depth with ⟨w, made, outcome, after⟩ | ⟨none, _⟩
    · cases asked.symm.trans made
      exact ⟨outcome, after⟩
    · cases asked.symm.trans none
  · intro deep
    have unread : (WellRequest.ofIntegers name role shape ids).cells.floats = .error .irregular :=
      Datum.floats_arrange_of_deep deep fun d hd => (given.numbers d hd).isAtom
    have failed := outcome_perform_request_of_error bound rfl unread
    exact ⟨outcome_step_of_error failed, step_of_error failed⟩
  · rintro n rest rfl
    rfl
  · rw [WellSet.wellCells, WellSet.push, List.flatMap_append, List.flatMap_singleton]
    rfl
  · rintro n rest pressure rfl nonneg
    exact if_pos nonneg
  · have same := List.map_inj_left (l := ids) (f := Number.nearest) (g := id)
    rw [List.map_id] at same
    rw [same]
    exact forall₂_congr fun n _ => Number.nearest_eq_iff

/-- A session with a set of wells for two phases and no wells in it. -/
def emptyField : Session := ({} : Session).bindWells "field" { phases := .member 2 }

theorem takesIntegers_table :
    emptyField.TakesIntegers "field" { phases := .member 2 } "A" .producer [2, 2]
      [5, -7, 2 ^ 53 + 1, 2 ^ 61] :=
  takesIntegers (Registry.find?_insert_self ..) "A" .producer rfl (by decide)

/-- An integer is replaced by another one: the least that no double holds. -/
theorem not_kept_ofIntegers :
    ((2 : Int) ^ 53 + 1).natAbs < 2 ^ 62 ∧
      ∃ w, (emptyField.step ((WellRequest.ofIntegers "A" .producer [1] [2 ^ 53 + 1]).command
          "field")).2.outcome = .ok (.well w) ∧ w.cells = [2 ^ 53] ∧ w.cells ≠ [2 ^ 53 + 1] :=
  ⟨by decide, _, rfl, by decide, by decide⟩

end Session

end Reservoir
