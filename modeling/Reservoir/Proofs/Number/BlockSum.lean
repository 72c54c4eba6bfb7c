import Mathlib.Data.List.Forall2
import Mathlib.Data.List.Perm.Basic
import Reservoir.Number.BlockSum

/-!
# Sums add every entry once

In whatever order the blocks of a list are added, every entry of the list is added exactly once,
apart from starting values. `IsSum xs s` says just this of a sum, and `isSum_total` shows it of
`total`. What holds of all entries and is kept by addition therefore holds of the total, and so
does what no addition gets rid of once it holds of some entry.
-/

namespace Reservoir.Number

/-- A value got from the entries of a list by additions, each entry being used once. -/
inductive IsSum : List Float → Float → Prop
  | start : IsSum [] (-0.0)
  | zero : IsSum [] 0.0
  | entry (x : Float) : IsSum [x] x
  | add {xs ys : List Float} {s t : Float} (left : IsSum xs s) (right : IsSum ys t) :
      IsSum (xs ++ ys) (s + t)
  | perm {xs ys : List Float} {s : Float} (h : IsSum xs s) (reordered : xs.Perm ys) : IsSum ys s

namespace IsSum

variable {P : Float → Prop} {xs : List Float} {s : Float}

/-- What all entries are, and addition keeps. -/
theorem of_forall (h : IsSum xs s) (start : P (-0.0)) (zero : P 0.0)
    (add : ∀ x y, P x → P y → P (x + y)) (all : ∀ x ∈ xs, P x) : P s := by
  induction h with
  | start => exact start
  | zero => exact zero
  | entry x => exact all x List.mem_cons_self
  | add _ _ left right =>
      exact add _ _ (left fun x hx => all x (List.mem_append_left _ hx))
        (right fun x hx => all x (List.mem_append_right _ hx))
  | perm _ reordered ih => exact ih fun x hx => all x (reordered.mem_iff.mp hx)

/-- What some entry is, and no addition gets rid of. -/
theorem of_mem (h : IsSum xs s) (left : ∀ x y, P x → P (x + y)) (right : ∀ x y, P y → P (x + y))
    (some : ∃ x ∈ xs, P x) : P s := by
  induction h with
  | start | zero =>
      obtain ⟨x, hx, _⟩ := some
      cases hx
  | entry x =>
      obtain ⟨y, hy, holds⟩ := some
      rwa [List.mem_singleton.mp hy] at holds
  | add _ _ ihLeft ihRight =>
      obtain ⟨x, hx, holds⟩ := some
      rcases List.mem_append.mp hx with hx | hx
      · exact left _ _ (ihLeft ⟨x, hx, holds⟩)
      · exact right _ _ (ihRight ⟨x, hx, holds⟩)
  | perm _ reordered ih =>
      obtain ⟨x, hx, holds⟩ := some
      exact ih ⟨x, reordered.mem_iff.mpr hx, holds⟩

end IsSum

/-- Entries added to what has been summed up. -/
theorem IsSum.foldl {xs : List Float} {s : Float} (h : IsSum xs s) (ys : List Float) :
    IsSum (xs ++ ys) (ys.foldl (· + ·) s) := by
  induction ys generalizing xs s with
  | nil => rwa [List.append_nil]
  | cons y ys ih =>
      have more := ih (h.add (.entry y))
      rwa [List.append_assoc] at more

theorem isSum_leftSum (xs : List Float) : IsSum xs (leftSum xs) :=
  IsSum.start.foldl xs

/-- Sums of lists, added up from the left. -/
theorem isSum_foldl_of_forall₂ {groups : List (List Float)} {sums xs : List Float} {s : Float}
    (each : List.Forall₂ IsSum groups sums) (h : IsSum xs s) :
    IsSum (xs ++ groups.flatten) (sums.foldl (· + ·) s) := by
  induction each generalizing xs s with
  | nil => rwa [List.flatten_nil, List.append_nil]
  | cons first _ ih =>
      have more := ih (h.add first)
      rwa [List.append_assoc] at more

theorem isSum_joinSums {groups : List (List Float)} {sums : List Float}
    (each : List.Forall₂ IsSum groups sums) : IsSum groups.flatten (joinSums sums) := by
  rw [joinSums.eq_def]
  split
  · obtain _ | ⟨ha, _ | ⟨hb, _ | ⟨hc, _ | ⟨hd, _ | ⟨he, _ | ⟨hf, _ | ⟨hg, _ | ⟨hh, _ | _⟩⟩⟩⟩⟩⟩⟩⟩ :=
      each
    have joined := ((ha.add hb).add (hc.add hd)).add ((he.add hf).add (hg.add hh))
    simpa [List.append_assoc] using joined
  · exact isSum_foldl_of_forall₂ each .start

/-- One more entry for each group. -/
theorem flatten_zipWith_append {groups : List (List Float)} {next : List Float}
    (h : groups.length = next.length) :
    (List.zipWith (fun group x => group ++ [x]) groups next).flatten.Perm
      (groups.flatten ++ next) := by
  induction groups generalizing next with
  | nil =>
      rw [List.length_eq_zero_iff.mp h.symm]
      exact .refl _
  | cons group groups ih =>
      obtain ⟨x, next, rfl⟩ := List.exists_cons_of_length_eq_add_one h.symm
      have rest := ih (Nat.succ.inj h)
      rw [List.zipWith_cons_cons, List.flatten_cons, List.flatten_cons, List.append_assoc,
        List.append_assoc]
      apply List.Perm.append_left
      rw [List.singleton_append]
      exact (rest.cons x).trans List.perm_middle.symm

theorem forall₂_zipWith_append {groups : List (List Float)} {sums next : List Float}
    (each : List.Forall₂ IsSum groups sums) :
    List.Forall₂ IsSum (List.zipWith (fun group x => group ++ [x]) groups next)
      (List.zipWith (· + ·) sums next) := by
  induction each generalizing next with
  | nil => exact .nil
  | cons first _ ih =>
      cases next with
      | nil => exact .nil
      | cons x next => exact .cons (first.add (.entry x)) ih

/-- The running sums are sums of groups; the groups and the entries that are left make up the
list. -/
theorem isSum_runningSums {groups : List (List Float)} {sums : List Float} (xs : List Float)
    (eight : sums.length = 8) (each : List.Forall₂ IsSum groups sums) :
    ∃ more, List.Forall₂ IsSum more (runningSums sums xs).1 ∧
      (more.flatten ++ (runningSums sums xs).2).Perm (groups.flatten ++ xs) := by
  induction sums, xs using runningSums.induct generalizing groups with
  | case1 sums xs enough ih =>
      have taken : (xs.take 8).length = 8 := by rw [List.length_take]; omega
      have length : groups.length = (xs.take 8).length := by rw [each.length_eq, eight, taken]
      obtain ⟨more, summed, reordered⟩ := ih (by rw [List.length_zipWith, eight, taken]; rfl)
        (forall₂_zipWith_append each)
      rw [runningSums, dif_pos enough]
      refine ⟨more, summed, reordered.trans ?_⟩
      have grouped := (flatten_zipWith_append length).append_right (xs.drop 8)
      rwa [List.append_assoc, List.take_append_drop] at grouped
  | case2 sums xs few =>
      rw [runningSums, dif_neg few]
      exact ⟨groups, each, .refl _⟩

theorem forall₂_entries (xs : List Float) :
    List.Forall₂ IsSum (xs.map fun x => [x]) xs := by
  induction xs with
  | nil => exact .nil
  | cons x xs ih => exact .cons (.entry x) ih

theorem isSum_stridedSum (xs : List Float) : IsSum xs (stridedSum xs) := by
  rw [stridedSum]
  split
  · exact isSum_leftSum xs
  · next enough =>
    have taken : (xs.take 8).length = 8 := by rw [List.length_take]; omega
    obtain ⟨groups, each, reordered⟩ :=
      isSum_runningSums (xs.drop 8) taken (forall₂_entries (xs.take 8))
    have front : ((xs.take 8).map fun x => [x]).flatten = xs.take 8 := by
      rw [← List.flatMap_def, List.flatMap_singleton']
    rw [front, List.take_append_drop] at reordered
    exact ((isSum_joinSums each).foldl _).perm reordered

theorem isSum_blockSum (xs : List Float) : IsSum xs (blockSum xs) := by
  induction xs using blockSum.induct with
  | case1 xs short =>
      rw [blockSum, dif_pos short]
      exact isSum_stridedSum xs
  | case2 xs long left right =>
      have halves := left.add right
      rw [List.take_append_drop] at halves
      rwa [blockSum, dif_neg long]

/-- The total of a list adds every entry once. -/
theorem isSum_total (xs : List Float) : IsSum xs (total xs) :=
  IsSum.zero.add (isSum_blockSum xs)

end Reservoir.Number
