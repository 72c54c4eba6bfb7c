import Mathlib.Tactic.NormNum
import Reservoir.Proofs.Datum.Nested
import Reservoir.Proofs.Number.Nearest
import Reservoir.Proofs.Session.Change
import Reservoir.Proofs.Well.Connections

/-!
# Wells added one after the other

A request for a well is refused for its role, or for a cell number that is no integer as a
double, and then changes nothing. The wells of a set are those of the accepted requests in
order, and their connections are laid out as those of any set.

The numbers may be nested up to the admitted depth; a deeper nesting is refused for its depth.
-/

namespace Reservoir

namespace WellSet

variable {x : Float}

/-- A number below `2 ^ 63` in magnitude has 64 bits. -/
theorem cell?_of_value {q : Rat} (value : Number.value? x = some q) (small : |q| < 2 ^ 63) :
    cell? x = Number.whole? x := by
  rw [cell?, Number.isInf_of_value value, if_neg Bool.false_ne_true]
  cases whole : Number.whole? x with
  | none => rfl
  | some n =>
      cases value.symm.trans (Number.whole?_eq_some_iff.mp whole)
      have inside : |n| < 2 ^ 63 := by exact_mod_cast small
      obtain ⟨above, below⟩ := abs_lt.mp inside
      exact congrArg some (if_pos ⟨Int.le_of_lt above, below⟩)

theorem cell?_of_isNaN (nan : x.isNaN = true) : cell? x = Number.whole? x := by
  have none := Number.value?_of_isNaN nan
  have finite : x.isInf = false := Number.isInf_of_isNaN nan
  rw [cell?, finite, if_neg Bool.false_ne_true]
  cases whole : Number.whole? x with
  | none => rfl
  | some n => cases none.symm.trans (Number.whole?_eq_some_iff.mp whole)

end WellSet

namespace Datum

/-- Numbers that cells may be given by: NaN, and numbers below `2 ^ 62` in magnitude. Truth
values are numbers, and a missing value is a NaN. -/
def IsCellNumber : Datum → Prop
  | .null => True
  | .bool _ => True
  | .int n => n.natAbs < 2 ^ 62
  | .float x => x.isNaN = true ∨ ∃ q, Number.value? x = some q ∧ |q| < 2 ^ 62
  | _ => False

/-- The double that the number of a cell is read as. -/
def double : Datum → Float
  | .bool true => 1.0
  | .bool false => 0.0
  | .int n => Float.ofInt n
  | .float x => x
  | _ => nan

variable {d : Datum}

theorem IsCellNumber.isAtom (h : d.IsCellNumber) : d.IsAtom := by
  cases d with
  | list => exact h.elim
  | _ => exact trivial

theorem IsCellNumber.entry_eq (h : d.IsCellNumber) : d.entry = .ok d.double := by
  cases d with
  | null | float => rfl
  | bool b => cases b <;> rfl
  | int n =>
      show floatOfInt n = .ok (Float.ofInt n)
      rw [floatOfInt, Number.ofInt?_eq_some h]
      rfl
  | text | list | record => exact h.elim

theorem IsCellNumber.cell?_eq (h : d.IsCellNumber) :
    WellSet.cell? d.double = Number.whole? d.double := by
  cases d with
  | null => rfl
  | bool b =>
      have read : ∃ n : Int,
          Number.whole? (Datum.bool b).double = some n ∧ |(n : Rat)| < 2 ^ 63 := by
        cases b
        · exact ⟨0, rfl, by norm_num⟩
        · exact ⟨1, rfl, by norm_num⟩
      obtain ⟨n, whole, small⟩ := read
      exact WellSet.cell?_of_value (Number.whole?_eq_some_iff.mp whole) small
  | int n =>
      have few : n.natAbs < 2 ^ 62 := h
      have bits : n.natAbs < 2 ^ 64 := Nat.lt_trans few (by decide)
      have small : |(Number.nearest n : Rat)| < 2 ^ 63 := by
        rw [← Int.cast_abs, Int.abs_eq_natAbs]
        exact_mod_cast Number.natAbs_nearest_lt few
      exact WellSet.cell?_of_value (Number.value?_ofInt bits) small
  | float x =>
      rcases h with nan | ⟨q, value, small⟩
      · exact WellSet.cell?_of_isNaN nan
      · exact WellSet.cell?_of_value value (small.trans (by norm_num))
  | text | list | record => exact h.elim

end Datum

/-- A request for one more well, whose cell numbers are nested as a shape says. -/
structure WellRequest where
  name : String
  role : Choice Role
  shape : List Nat
  ids : List Datum

namespace WellRequest

variable (r : WellRequest)

/-- The cells as they are given. -/
def cells : Datum := .arrange r.shape r.ids

/-- The request as a command to a set of wells. -/
def command (set : String) : Command := .plain (.addWell set r.name r.role r.cells)

/-- The numbers fill the shape and are numbers of cells. -/
structure Given : Prop where
  count : r.ids.length = volume r.shape
  numbers : ∀ d ∈ r.ids, d.IsCellNumber

/-- The role is none, or some number of a cell is NaN or no integer as a double. -/
def Refused : Prop :=
  (∀ m, r.role ≠ .member m) ∨
    ∃ d ∈ r.ids, d.double.isNaN = true ∨ ∀ n : Int, Number.value? d.double ≠ some (n : Rat)

/-- What a refused request is answered. -/
def fault : WellFault :=
  match r.role with
  | .other given => .unknownRole r.name given
  | .member _ => .fractionalCells r.name r.cells

/-- The well that is asked for, in a set with a number of phases. -/
def well? (phases : Choice Int) : Option Well :=
  match r.role with
  | .other _ => none
  | .member _ => (r.ids.mapM fun d => Number.whole? d.double).map fun cells =>
      { name := r.name, role := r.role, cells, stack := .empty (some phases) }

variable {r}

theorem whole?_double_eq_none_iff {d : Datum} :
    Number.whole? d.double = none ↔
      d.double.isNaN = true ∨ ∀ n : Int, Number.value? d.double ≠ some (n : Rat) := by
  have missing : Number.whole? d.double = none ↔
      ∀ n : Int, Number.value? d.double ≠ some (n : Rat) := by
    rw [Option.eq_none_iff_forall_ne_some]
    exact forall_congr' fun n => not_congr Number.whole?_eq_some_iff
  rw [missing]
  constructor
  · exact .inr
  · rintro (nan | none)
    · intro n found
      cases (Number.value?_of_isNaN nan).symm.trans found
    · exact none

/-- There is no well for the requests that are to be refused. -/
theorem well?_eq_none_iff (phases : Choice Int) : r.well? phases = none ↔ r.Refused := by
  rw [well?, Refused]
  cases r.role with
  | other given => simp
  | member m =>
      simp only [Option.map_eq_none_iff, mapM_eq_none_iff, whole?_double_eq_none_iff]
      simp

theorem floats_cells (given : r.Given) (depth : r.shape.length ≤ Datum.depthLimit) :
    r.cells.floats = .ok (r.ids.map Datum.double) := by
  rw [cells, Datum.floats_arrange given.count depth fun d hd => (given.numbers d hd).isAtom]
  exact mapM_eq_ok_map fun d hd => (given.numbers d hd).entry_eq

/-- A request is answered with its well, or refused. -/
theorem newWell_eq (given : r.Given) (depth : r.shape.length ≤ Datum.depthLimit) (ws : WellSet) :
    ws.newWell r.name r.role r.cells =
      match r.well? ws.phases with
      | some w => .ok w
      | none => .error (.well r.fault) := by
  unfold WellSet.newWell
  rw [well?, fault]
  cases r.role with
  | other => rfl
  | member m =>
      have read : r.ids.mapM (fun d => WellSet.cell? d.double) =
          r.ids.mapM fun d => Number.whole? d.double :=
        mapM_congr fun d hd => (given.numbers d hd).cell?_eq
      simp only [WellSet.readCells, floats_cells given depth, Except.mapError, bind, Except.bind,
        List.mapM_map, Function.comp_def, read]
      cases r.ids.mapM fun d => Number.whole? d.double <;> rfl

end WellRequest

namespace Session

variable {s : Session} {set : String} {ws : WellSet} {r : WellRequest}

/-- A request either adds its well to the set or is refused and changes nothing. -/
theorem step_request (bound : s.wellSets.find? set = some ws) (given : r.Given)
    (depth : r.shape.length ≤ Datum.depthLimit) :
    (∃ w, r.well? ws.phases = some w ∧ (s.step (r.command set)).2.outcome = .ok (.well w) ∧
        (s.step (r.command set)).1 = s.bindWells set (ws.push w)) ∨
      r.well? ws.phases = none ∧ (s.step (r.command set)).2.outcome = .error (.well r.fault) ∧
        (s.step (r.command set)).1 = s := by
  have made := WellRequest.newWell_eq given depth ws
  have answer : (s.perform (r.command set)).outcome = (do
      let w ← ws.newWell r.name r.role r.cells
      pure (s.bindWells set (ws.push w), .ok (.well w))) := by
    show s.answer (.addWell set r.name r.role r.cells) = _
    rw [Session.answer, Registry.get_eq_ok_iff.mpr bound]
    simp only [bind, Except.bind, WellSet.addWell]
    cases ws.newWell r.name r.role r.cells <;> rfl
  cases asked : r.well? ws.phases with
  | none =>
      rw [made, asked] at answer
      exact .inr ⟨rfl, outcome_step_of_error answer, step_of_error answer⟩
  | some w =>
      rw [made, asked] at answer
      obtain ⟨after, outcome⟩ := step_of_ok answer
      exact .inl ⟨w, rfl, outcome, after⟩

/-- A request is refused when it is to be, with the fault of the well and without a change, and
otherwise answered with its well. -/
structure TakesRequest (s : Session) (set : String) (phases : Choice Int) (r : WellRequest) :
    Prop where
  refused_iff : (∃ e, (s.step (r.command set)).2.outcome = .error e) ↔ r.Refused
  refused : ∀ e, (s.step (r.command set)).2.outcome = .error e →
    e = .well r.fault ∧ (s.step (r.command set)).1 = s
  accepted : ∀ reply, (s.step (r.command set)).2.outcome = .ok reply →
    ∃ w, reply = .well w ∧ r.well? phases = some w

theorem takesRequest (bound : s.wellSets.find? set = some ws) (given : r.Given)
    (depth : r.shape.length ≤ Datum.depthLimit) : s.TakesRequest set ws.phases r := by
  rcases step_request bound given depth with ⟨w, asked, outcome, _⟩ | ⟨none, outcome, same⟩
  · refine ⟨?_, ?_, ?_⟩
    · rw [← WellRequest.well?_eq_none_iff ws.phases, asked, outcome]
      simp
    · intro e failed
      cases outcome.symm.trans failed
    · intro reply answered
      cases outcome.symm.trans answered
      exact ⟨w, rfl, asked⟩
  · refine ⟨?_, ?_, ?_⟩
    · rw [← WellRequest.well?_eq_none_iff ws.phases, none, outcome]
      simp
    · intro e failed
      cases outcome.symm.trans failed
      exact ⟨rfl, same⟩
    · intro reply answered
      cases outcome.symm.trans answered

/-- The wells of the accepted requests are added in order. -/
theorem wells_run_requests {requests : List WellRequest}
    (bound : s.wellSets.find? set = some ws) (given : ∀ r ∈ requests, r.Given)
    (depth : ∀ r ∈ requests, r.shape.length ≤ Datum.depthLimit) :
    ∃ after, (s.run (requests.map (·.command set))).wellSets.find? set = some after ∧
      after.phases = ws.phases ∧
      after.wells = ws.wells ++ requests.filterMap (·.well? ws.phases) := by
  induction requests generalizing s ws with
  | nil => exact ⟨ws, bound, rfl, (List.append_nil _).symm⟩
  | cons r requests ih =>
      have later := fun (q : WellRequest) hq => given q (List.mem_cons_of_mem r hq)
      have flatter := fun (q : WellRequest) hq => depth q (List.mem_cons_of_mem r hq)
      rw [List.map_cons, run_cons, List.filterMap_cons]
      rcases step_request bound (given r List.mem_cons_self) (depth r List.mem_cons_self) with
        ⟨w, asked, _, after⟩ | ⟨none, _, same⟩
      · rw [after, asked]
        have pushed : (s.bindWells set (ws.push w)).wellSets.find? set = some (ws.push w) :=
          Registry.find?_insert_self ..
        obtain ⟨last, found, phases, wells⟩ := ih pushed later flatter
        refine ⟨last, found, phases, ?_⟩
        rw [wells]
        exact List.append_assoc ..
      · rw [same, none]
        exact ih bound later flatter

/-- A set of wells filled by a list of requests: its wells are those of the accepted requests in
order, its connections are laid out, and each request was taken as it should be. -/
structure AddsWells (s : Session) (set : String) (phases : Choice Int)
    (requests : List WellRequest) : Prop where
  wells : ∃ ws, (s.run (requests.map (·.command set))).wellSets.find? set = some ws ∧
    ws.phases = phases ∧ ws.wells = requests.filterMap (·.well? phases) ∧ ws.LaidOut
  each : ∀ (before : List WellRequest) (r : WellRequest) (after : List WellRequest),
    requests = before ++ r :: after →
      (s.run (before.map (·.command set))).TakesRequest set phases r

/-- A new set of wells is filled by any list of requests. -/
theorem addsWells (s : Session) {set : String} {phases : Choice Int} {fresh : WellSet}
    (created : WellSet.create phases = .ok fresh) (bound : s.wellSets.find? set = some fresh)
    {requests : List WellRequest} (given : ∀ r ∈ requests, r.Given)
    (depth : ∀ r ∈ requests, r.shape.length ≤ Datum.depthLimit) :
    s.AddsWells set phases requests := by
  obtain rfl : fresh = { phases } := by
    obtain ⟨few, _, created⟩ := bind_eq_ok_iff.mp created
    split at created
    · cases created
    · exact (Except.ok.inj created).symm
  constructor
  · obtain ⟨ws, found, phases, wells⟩ := wells_run_requests bound given depth
    exact ⟨ws, found, phases, wells, ws.laidOut⟩
  · rintro before r after rfl
    have front := fun (q : WellRequest) hq =>
      given q (List.mem_append.mpr (.inl (hq : q ∈ before)))
    have front' := fun (q : WellRequest) hq =>
      depth q (List.mem_append.mpr (.inl (hq : q ∈ before)))
    obtain ⟨ws, found, phases, _⟩ := wells_run_requests bound front front'
    have taken := takesRequest found (given r (by simp)) (depth r (by simp))
    rwa [phases] at taken

/-- Requests of which three are accepted: one for a list of cells, one for none and one for a
table of cells. The others have no role, a fraction and a missing value. -/
def mixedRequests : List WellRequest :=
  [⟨"A", .member .producer, [3], [.int 5, .int 7, .float 2.0]⟩,
   ⟨"B", .other (.text "observer"), [1], [.int 1]⟩,
   ⟨"C", .member .injector, [2], [.int 1, .float 1.5]⟩,
   ⟨"D", .member .injector, [0], []⟩,
   ⟨"E", .member .producer, [2], [.int 3, .null]⟩,
   ⟨"F", .member .injector, [2, 2], [.int 0, .int 4, .bool true, .int (-6)]⟩]

theorem addsWells_mixedRequests :
    ∃ fresh, WellSet.create (.member 2) = .ok fresh ∧
      (({} : Session).bindWells "field" fresh).wellSets.find? "field" = some fresh ∧
      (∀ r ∈ mixedRequests, r.Given) ∧
      (∀ r ∈ mixedRequests, r.shape.length ≤ Datum.depthLimit) ∧
      (({} : Session).bindWells "field" fresh).AddsWells "field" (.member 2) mixedRequests := by
  have two : Datum.IsCellNumber (.float 2.0) :=
    .inr ⟨_, Number.whole?_eq_some_iff.mp (show Number.whole? 2.0 = some 2 from rfl), by norm_num⟩
  have half : Datum.IsCellNumber (.float 1.5) :=
    .inr ⟨(6755399441055744 : Nat) * 2 ^ (-52 : Int), rfl, by norm_num⟩
  have counts : ∀ r ∈ mixedRequests, r.ids.length = volume r.shape := by decide
  have numbers : ∀ r ∈ mixedRequests, ∀ d ∈ r.ids, d.IsCellNumber := by
    simp only [mixedRequests, List.forall_mem_cons, two, half]
    simp [Datum.IsCellNumber]
  have given : ∀ r ∈ mixedRequests, r.Given := fun r hr => ⟨counts r hr, numbers r hr⟩
  have depth : ∀ r ∈ mixedRequests, r.shape.length ≤ Datum.depthLimit := by decide
  have created : WellSet.create (.member 2) = .ok { phases := .member 2 } := rfl
  have bound := Registry.find?_insert_self ({} : Session).wellSets "field"
    ({ phases := .member 2 } : WellSet)
  exact ⟨_, created, bound, given, depth, addsWells _ created bound given depth⟩

/-- A single cell, nested in more lists than are admitted. -/
def deepRequest : WellRequest := ⟨"A", .member .producer, List.replicate 65 1, [.int 1]⟩

/-- What cannot be read is refused as such. -/
theorem outcome_perform_request_of_error {role : Role} {e : InputFault}
    (bound : s.wellSets.find? set = some ws) (member : r.role = .member role)
    (refused : r.cells.floats = .error e) :
    (s.perform (r.command set)).outcome = .error (.input e) := by
  show s.answer (.addWell set r.name r.role r.cells) = _
  simp only [Session.answer, Registry.get_eq_ok_iff.mpr bound, bind, Except.bind, WellSet.addWell,
    WellSet.newWell, member, WellSet.readCells, refused, Except.mapError]

/-- The number of a cell is refused when it is nested too deep. -/
theorem not_addsWells_deepRequest :
    deepRequest.Given ∧
      ∃ fresh, WellSet.create (.member 2) = .ok fresh ∧
        (({} : Session).bindWells "field" fresh).wellSets.find? "field" = some fresh ∧
        ¬(({} : Session).bindWells "field" fresh).AddsWells "field" (.member 2) [deepRequest] := by
  have given : deepRequest.Given := by
    refine ⟨by decide, ?_⟩
    simp [deepRequest, Datum.IsCellNumber]
  have bound : (({} : Session).bindWells "field" { phases := .member 2 }).wellSets.find? "field" =
      some { phases := .member 2 } := Registry.find?_insert_self ..
  refine ⟨given, _, rfl, bound, fun adds => ?_⟩
  have deep : deepRequest.cells.floats = .error .irregular :=
    Datum.floats_arrange_of_deep (by decide +kernel) fun d hd => (given.numbers d hd).isAtom
  have outcome := outcome_step_of_error (outcome_perform_request_of_error bound rfl deep)
  have taken : (({} : Session).bindWells "field" { phases := .member 2 }).TakesRequest "field"
      (.member 2) deepRequest := adds.each [] deepRequest [] rfl
  -- The answer is a fault of the value, where only a fault of the well is foreseen.
  have cause := (taken.refused _ outcome).1
  exact nomatch cause

end Session

end Reservoir
