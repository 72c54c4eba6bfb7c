import Reservoir.Datum.Sort
import Reservoir.Proofs.Traverse

/-!
# Values given as plain lists

A list without lists in it is a block of one axis, whatever its entries are. A flat list of
doubles, of integers of 64 bits or of pairs of such integers is therefore read as the
numbers it was written from.
-/

namespace Reservoir

theorem Block.entries_ofShape {α : Type} (s : List Nat) (xs : List α) :
    (Block.ofShape s xs).entries = xs := by
  unfold Block.ofShape
  split <;> rfl

/-- Entries of one sort are together of this sort. -/
theorem NumberSort.ofEntries_of_forall {s : NumberSort} {ds : List Datum} (some : ds ≠ [])
    (h : ∀ d ∈ ds, ofEntry d = s) : ofEntries ds = s := by
  obtain ⟨d, ds, rfl⟩ := List.exists_cons_of_ne_nil some
  obtain ⟨first, rest⟩ := List.forall_mem_cons.mp h
  clear some h
  rw [ofEntries, first]
  induction ds with
  | nil => rfl
  | cons e es ih =>
      obtain ⟨next, rest⟩ := List.forall_mem_cons.mp rest
      rw [List.foldl_cons, next, join_self]
      exact ih rest

namespace Datum

/-- A value that is no list. -/
def IsAtom : Datum → Prop
  | .list _ => False
  | _ => True

theorem IsAtom.shape_eq {d : Datum} (h : d.IsAtom) : d.shape = .ok [] := by
  cases d <;> first | rfl | exact h.elim

theorem IsAtom.leaves_eq {d : Datum} (h : d.IsAtom) : d.leaves = [d] := by
  cases d <;> first | rfl | exact h.elim

theorem shapes_of_shape_eq {ds : List Datum} {s : List Nat} (h : ∀ d ∈ ds, d.shape = .ok s) :
    shapes ds = .ok (List.replicate ds.length s) := by
  induction ds with
  | nil => rfl
  | cons d ds ih =>
      rw [shapes, h d (by simp), ih fun e he => h e (by simp [he])]
      rfl

/-- A list of blocks of one shape has one axis more. -/
theorem shape_list {d : Datum} {ds : List Datum} {s : List Nat}
    (h : ∀ e ∈ d :: ds, e.shape = .ok s) :
    (Datum.list (d :: ds)).shape = .ok ((d :: ds).length :: s) := by
  rw [shape, shapes_of_shape_eq h]
  simp [List.replicate_succ, bind, Except.bind, pure, Except.pure]

theorem shape_list_of_isAtom {ds : List Datum} (h : ∀ d ∈ ds, d.IsAtom) :
    (Datum.list ds).shape = .ok [ds.length] := by
  cases ds with
  | nil => rfl
  | cons d ds => exact shape_list fun e he => (h e he).shape_eq

theorem leavesAll_eq_flatMap (ds : List Datum) : leavesAll ds = ds.flatMap leaves := by
  induction ds with
  | nil => rfl
  | cons d ds ih => rw [leavesAll, ih, List.flatMap_cons]

theorem leaves_list_of_isAtom {ds : List Datum} (h : ∀ d ∈ ds, d.IsAtom) :
    (Datum.list ds).leaves = ds := by
  rw [leaves, leavesAll_eq_flatMap]
  induction ds with
  | nil => rfl
  | cons d ds ih =>
      rw [List.flatMap_cons, (h d (by simp)).leaves_eq, ih fun e he => h e (by simp [he])]
      rfl

theorem blockShape_of_shape_eq {d : Datum} {s : List Nat} (h : d.shape = .ok s)
    (depth : s.length ≤ depthLimit) : d.blockShape = .ok s := by
  rw [blockShape, h]
  simp [bind, Except.bind, depth, pure, Except.pure]

theorem blockShape_list_of_isAtom {ds : List Datum} (h : ∀ d ∈ ds, d.IsAtom) :
    (Datum.list ds).blockShape = .ok [ds.length] :=
  blockShape_of_shape_eq (shape_list_of_isAtom h) (by simp [depthLimit])

theorem isAtom_of_mem_floats {xs : List Float} : ∀ d ∈ xs.map Datum.float, d.IsAtom := by
  intro d hd
  obtain ⟨x, _, rfl⟩ := List.mem_map.mp hd
  exact trivial

theorem mapM_entry (xs : List Float) : (xs.map Datum.float).mapM entry = .ok xs := by
  rw [List.mapM_map]
  exact (mapM_eq_ok_map (g := id) fun x _ => rfl).trans (by rw [List.map_id])

/-- A flat list of doubles is read as it was written. -/
theorem floats_ofFloats (xs : List Float) : (ofFloats xs).floats = .ok xs := by
  rw [floats, block, ofFloats, blockShape_list_of_isAtom isAtom_of_mem_floats,
    leaves_list_of_isAtom isAtom_of_mem_floats, mapM_entry]
  rfl

/-- A flat list of integers. -/
def ofIntegers (ns : List Int) : Datum :=
  .list (ns.map .int)

/-- A list of pairs of integers. -/
def ofPairs (ps : List (Int × Int)) : Datum :=
  .list (ps.map fun p => ofIntegers [p.1, p.2])

/-- An integer of 64 bits. -/
def InRange (n : Int) : Prop :=
  integerRange.1 ≤ n ∧ n ≤ integerRange.2

instance (n : Int) : Decidable (InRange n) :=
  inferInstanceAs (Decidable (_ ∧ _))

theorem bounded_of_inRange {n : Int} (h : InRange n) : bounded n = .ok n :=
  if_pos h

theorem inRange_of_bounded {n m : Int} (h : bounded n = .ok m) : InRange n := by
  rw [bounded] at h
  split at h
  · assumption
  · cases h

theorem isAtom_of_mem_integers {ns : List Int} : ∀ d ∈ ns.map Datum.int, d.IsAtom := by
  intro d hd
  obtain ⟨n, _, rfl⟩ := List.mem_map.mp hd
  exact trivial

theorem mapM_integer {ns : List Int} (h : ∀ n ∈ ns, InRange n) :
    (ns.map Datum.int).mapM integer = .ok ns := by
  rw [List.mapM_map]
  exact (mapM_eq_ok_map (g := id) fun n hn => bounded_of_inRange (h n hn)).trans
    (by rw [List.map_id])

/-- Integers that are read have 64 bits. -/
theorem inRange_of_mapM_integer {ns read : List Int}
    (h : (ns.map Datum.int).mapM integer = .ok read) : ∀ n ∈ ns, InRange n := by
  intro n hn
  obtain ⟨k, hk⟩ := List.mem_iff_getElem?.mp (List.mem_map_of_mem (f := Datum.int) hn)
  obtain ⟨_, _, bounded⟩ := exists_getElem?_of_mapM h hk
  exact inRange_of_bounded bounded

/-- Integers of which one has more than 64 bits are refused. -/
theorem mapM_integer_of_wide {ns : List Int} (h : ¬∀ n ∈ ns, InRange n) :
    (ns.map Datum.int).mapM integer = .error .tooLarge := by
  have only : ∀ d ∈ ns.map Datum.int, ∀ e, integer d = .error e → e = .tooLarge := by
    intro d hd e refused
    obtain ⟨n, _, rfl⟩ := List.mem_map.mp hd
    rw [integer, bounded] at refused
    split at refused
    · cases refused
    · cases refused
      rfl
  push Not at h
  obtain ⟨n, hn, wide⟩ := h
  exact mapM_eq_error_of_mem only (List.mem_map_of_mem hn) (if_neg wide)

/-- A flat list of integers of 64 bits is read as it was written. -/
theorem integerBlock_ofIntegers {ns : List Int} (h : ∀ n ∈ ns, InRange n) :
    (ofIntegers ns).integerBlock = .ok (.flat ns) := by
  rw [integerBlock, ofIntegers, blockShape_list_of_isAtom isAtom_of_mem_integers,
    leaves_list_of_isAtom isAtom_of_mem_integers, mapM_integer h]
  simp [bind, Except.bind, pure, Except.pure, Block.ofShape]

/-- Integers of 64 bits are of the sort of these. -/
theorem sort_ofIntegers {ns : List Int} (some : ns ≠ []) (h : ∀ n ∈ ns, InRange n) :
    (ofIntegers ns).sort = .signed := by
  rw [sort, ofIntegers, leaves_list_of_isAtom isAtom_of_mem_integers]
  apply NumberSort.ofEntries_of_forall (by simpa using some)
  intro d hd
  obtain ⟨n, hn, rfl⟩ := List.mem_map.mp hd
  exact if_pos (h n hn)

theorem inRange_of_integerBlock {ns : List Int} {b : Block Int}
    (h : (ofIntegers ns).integerBlock = .ok b) : ∀ n ∈ ns, InRange n := by
  obtain ⟨_, _, h⟩ := bind_eq_ok_iff.mp h
  obtain ⟨read, integers, _⟩ := bind_eq_ok_iff.mp h
  rw [ofIntegers, leaves_list_of_isAtom isAtom_of_mem_integers] at integers
  exact inRange_of_mapM_integer integers

theorem shape_ofPairs (ps : List (Int × Int)) :
    ∃ s, (ofPairs ps).shape = .ok s ∧ s.length ≤ depthLimit := by
  cases ps with
  | nil => exact ⟨[0], rfl, by decide⟩
  | cons p ps =>
      refine ⟨[(p :: ps).length, 2], ?_, by simp [depthLimit]⟩
      have rows : ∀ d ∈ (p :: ps).map (fun p => ofIntegers [p.1, p.2]), d.shape = .ok [2] := by
        intro d hd
        obtain ⟨q, _, rfl⟩ := List.mem_map.mp hd
        exact shape_list_of_isAtom isAtom_of_mem_integers
      rw [ofPairs, List.map_cons, shape_list (by simpa using rows)]
      simp

theorem leaves_ofPairs (ps : List (Int × Int)) :
    (ofPairs ps).leaves = (ps.flatMap fun p => [p.1, p.2]).map .int := by
  rw [ofPairs, leaves, leavesAll_eq_flatMap, List.flatMap_map, List.map_flatMap]
  rfl

theorem paired_flatMap (ps : List (Int × Int)) :
    paired (ps.flatMap fun p => [p.1, p.2]) = .ok ps := by
  induction ps with
  | nil => rfl
  | cons p ps ih =>
      rw [List.flatMap_cons, List.cons_append, List.singleton_append, paired, ih]
      rfl

/-- A list of pairs of integers of 64 bits is read as it was written. -/
theorem pairs_ofPairs {ps : List (Int × Int)} (h : ∀ p ∈ ps, InRange p.1 ∧ InRange p.2) :
    (ofPairs ps).pairs = .ok ps := by
  obtain ⟨s, shape, depth⟩ := shape_ofPairs ps
  have ends : ∀ n ∈ ps.flatMap (fun p => [p.1, p.2]), InRange n := by
    intro n hn
    obtain ⟨p, hp, hn⟩ := List.mem_flatMap.mp hn
    rcases List.mem_pair.mp hn with rfl | rfl
    · exact (h p hp).1
    · exact (h p hp).2
  have read : (ofPairs ps).integers = .ok (ps.flatMap fun p => [p.1, p.2]) := by
    rw [integers, integerBlock, blockShape_of_shape_eq shape depth, leaves_ofPairs,
      mapM_integer ends]
    exact congrArg Except.ok (Block.entries_ofShape s _)
  rw [pairs, read]
  exact paired_flatMap ps

theorem pairs_ofPairs_of_wide {ps : List (Int × Int)}
    (h : ¬∀ p ∈ ps, InRange p.1 ∧ InRange p.2) : (ofPairs ps).pairs = .error .tooLarge := by
  obtain ⟨s, shape, depth⟩ := shape_ofPairs ps
  have ends : ¬∀ n ∈ ps.flatMap (fun p => [p.1, p.2]), InRange n := by
    intro ends
    refine h fun p hp => ⟨ends p.1 ?_, ends p.2 ?_⟩
    · exact List.mem_flatMap.mpr ⟨p, hp, by simp⟩
    · exact List.mem_flatMap.mpr ⟨p, hp, by simp⟩
  rw [pairs, integers, integerBlock, blockShape_of_shape_eq shape depth, leaves_ofPairs,
    mapM_integer_of_wide ends]
  rfl

theorem inRange_of_pairs {ps read : List (Int × Int)} (h : (ofPairs ps).pairs = .ok read) :
    ∀ p ∈ ps, InRange p.1 ∧ InRange p.2 := by
  obtain ⟨_, h, _⟩ := bind_eq_ok_iff.mp h
  obtain ⟨_, h, _⟩ := bind_eq_ok_iff.mp h
  obtain ⟨_, _, h⟩ := bind_eq_ok_iff.mp h
  obtain ⟨_, integers, _⟩ := bind_eq_ok_iff.mp h
  rw [leaves_ofPairs] at integers
  have ends := inRange_of_mapM_integer integers
  intro p hp
  exact ⟨ends p.1 (List.mem_flatMap.mpr ⟨p, hp, by simp⟩),
    ends p.2 (List.mem_flatMap.mpr ⟨p, hp, by simp⟩)⟩

end Datum

end Reservoir
