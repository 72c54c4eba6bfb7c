import Mathlib.Data.List.Forall2

/-!
# Attempts in sequence

An attempt that may be refused succeeds in steps, each of which succeeds. A list is read by
reading its entries in turn, up to the first refusal: the facts below say when that
succeeds, with which result, and which entry a refusal comes from.
-/

namespace Reservoir

section Steps

variable {ε δ α β : Type}

theorem bind_eq_ok_iff {x : Except ε α} {f : α → Except ε β} {b : β} :
    (x >>= f) = .ok b ↔ ∃ a, x = .ok a ∧ f a = .ok b := by
  cases x <;> simp [bind, Except.bind]

theorem mapError_eq_ok_iff {x : Except ε α} {f : ε → δ} {a : α} :
    x.mapError f = .ok a ↔ x = .ok a := by
  cases x <;> simp [Except.mapError]

theorem map_eq_ok_iff {x : Except ε α} {f : α → β} {b : β} :
    x.map f = .ok b ↔ ∃ a, x = .ok a ∧ f a = b := by
  cases x <;> simp [Except.map]

end Steps

theorem mapM_congr {m : Type → Type} [Monad m] [LawfulMonad m] {α β : Type} {f g : α → m β}
    {xs : List α} (h : ∀ x ∈ xs, f x = g x) : xs.mapM f = xs.mapM g := by
  induction xs with
  | nil => rfl
  | cons x xs ih =>
      rw [List.mapM_cons, List.mapM_cons, h x List.mem_cons_self,
        ih fun y hy => h y (List.mem_cons_of_mem x hy)]

variable {ε α β : Type} {f : α → Except ε β}

theorem mapM_cons_of_error {x : α} {e : ε} (xs : List α) (h : f x = .error e) :
    (x :: xs).mapM f = .error e := by
  rw [List.mapM_cons, h]
  rfl

theorem mapM_cons_of_ok {x : α} {y : β} (xs : List α) (h : f x = .ok y) :
    (x :: xs).mapM f = (xs.mapM f).map (y :: ·) := by
  rw [List.mapM_cons, h]
  cases xs.mapM f <;> rfl

theorem mapM_eq_ok_iff {xs : List α} {ys : List β} :
    xs.mapM f = .ok ys ↔ List.Forall₂ (fun x y => f x = .ok y) xs ys := by
  induction xs generalizing ys with
  | nil => cases ys <;> simp [pure, Except.pure]
  | cons x xs ih =>
      rw [List.forall₂_cons_left_iff]
      cases hx : f x with
      | error e => simp [mapM_cons_of_error xs hx]
      | ok y =>
          rw [mapM_cons_of_ok xs hx]
          constructor
          · intro h
            cases hxs : xs.mapM f with
            | error e =>
                rw [hxs] at h
                cases h
            | ok zs =>
                rw [hxs] at h
                cases h
                exact ⟨y, zs, rfl, ih.mp hxs, rfl⟩
          · rintro ⟨z, zs, hz, rest, rfl⟩
            cases hz
            rw [ih.mpr rest]
            rfl

/-- What was read at a place comes from the entry at that place. -/
theorem exists_getElem?_of_mapM {xs : List α} {ys : List β} {n : Nat} {x : α}
    (h : xs.mapM f = .ok ys) (hx : xs[n]? = some x) : ∃ y, ys[n]? = some y ∧ f x = .ok y := by
  have related := mapM_eq_ok_iff.mp h
  obtain ⟨hn, rfl⟩ := List.getElem?_eq_some_iff.mp hx
  have hn' : n < ys.length := related.length_eq ▸ hn
  exact ⟨ys[n], List.getElem?_eq_getElem hn', related.get hn hn'⟩

/-- What was read comes from some entry. -/
theorem exists_mem_of_mapM {xs : List α} {ys : List β} {y : β} (h : xs.mapM f = .ok ys)
    (hy : y ∈ ys) : ∃ x ∈ xs, f x = .ok y := by
  have related := mapM_eq_ok_iff.mp h
  obtain ⟨n, hn, rfl⟩ := List.mem_iff_getElem.mp hy
  have hn' : n < xs.length := related.length_eq ▸ hn
  exact ⟨xs[n], List.getElem_mem hn', related.get hn' hn⟩

/-- Entries that are all read give the list of what was read. -/
theorem mapM_eq_ok_map {g : α → β} {xs : List α} (h : ∀ x ∈ xs, f x = .ok (g x)) :
    xs.mapM f = .ok (xs.map g) := by
  rw [mapM_eq_ok_iff, List.forall₂_map_right_iff, List.forall₂_same]
  exact h

/-- Entries that pass a test and are read give the list of what was read. -/
theorem mapM_filter_eq_ok {p : α → Bool} {h : α → Option β} {xs : List α}
    (read : ∀ x ∈ xs, p x = true → ∃ y, f x = .ok y ∧ h x = some y)
    (skip : ∀ x ∈ xs, p x = false → h x = none) :
    (xs.filter p).mapM f = .ok (xs.filterMap h) := by
  induction xs with
  | nil => rfl
  | cons x xs ih =>
      have rest := ih (fun y hy => read y (List.mem_cons_of_mem x hy))
        (fun y hy => skip y (List.mem_cons_of_mem x hy))
      cases hx : p x with
      | false =>
          rw [List.filter_cons_of_neg (by simp [hx]), rest,
            List.filterMap_cons_none (skip x List.mem_cons_self hx)]
      | true =>
          obtain ⟨y, hy, found⟩ := read x List.mem_cons_self hx
          rw [List.filter_cons_of_pos hx, mapM_cons_of_ok _ hy, rest,
            List.filterMap_cons_some found]
          rfl

/-- A refusal is that of the first entry that is refused. -/
theorem mapM_eq_error_iff {xs : List α} {e : ε} :
    xs.mapM f = .error e ↔ ∃ front x rest, xs = front ++ x :: rest ∧
      (∀ a ∈ front, ∃ y, f a = .ok y) ∧ f x = .error e := by
  induction xs with
  | nil => simp [pure, Except.pure]
  | cons x xs ih =>
      cases hx : f x with
      | error d =>
          rw [mapM_cons_of_error xs hx]
          constructor
          · intro h
            cases h
            exact ⟨[], x, xs, rfl, by simp, hx⟩
          · rintro ⟨front, a, rest, split, read, refused⟩
            cases front with
            | nil =>
                obtain ⟨rfl, rfl⟩ := List.cons.inj split
                rw [hx] at refused
                cases refused
                rfl
            | cons b front =>
                obtain ⟨rfl, rfl⟩ := List.cons.inj split
                obtain ⟨y, hy⟩ := read x (by simp)
                rw [hx] at hy
                cases hy
      | ok y =>
          have step : (xs.mapM f).map (y :: ·) = .error e ↔ xs.mapM f = .error e := by
            cases xs.mapM f <;> simp [Except.map]
          rw [mapM_cons_of_ok xs hx, step, ih]
          constructor
          · rintro ⟨front, a, rest, rfl, read, refused⟩
            refine ⟨x :: front, a, rest, rfl, ?_, refused⟩
            intro b hb
            rcases List.mem_cons.mp hb with rfl | hb
            · exact ⟨y, hx⟩
            · exact read b hb
          · rintro ⟨front, a, rest, split, read, refused⟩
            cases front with
            | nil =>
                obtain ⟨rfl, rfl⟩ := List.cons.inj split
                rw [hx] at refused
                cases refused
            | cons b front =>
                obtain ⟨rfl, rfl⟩ := List.cons.inj split
                exact ⟨front, a, rest, rfl, fun c hc => read c (by simp [hc]), refused⟩

/-- A list is refused exactly when one of its entries is. -/
theorem exists_mapM_eq_error_iff {xs : List α} :
    (∃ e, xs.mapM f = .error e) ↔ ∃ x ∈ xs, ∃ e, f x = .error e := by
  constructor
  · rintro ⟨e, h⟩
    obtain ⟨front, x, rest, rfl, _, refused⟩ := mapM_eq_error_iff.mp h
    exact ⟨x, by simp, e, refused⟩
  · rintro ⟨x, member, e, refused⟩
    cases h : xs.mapM f with
    | error d => exact ⟨d, rfl⟩
    | ok ys =>
        obtain ⟨n, hn⟩ := List.mem_iff_getElem?.mp member
        obtain ⟨y, _, read⟩ := exists_getElem?_of_mapM h hn
        rw [refused] at read
        cases read

/-- A list with entries that are refused for one cause only is refused for it. -/
theorem mapM_eq_error_of_mem {xs : List α} {x : α} {e : ε}
    (only : ∀ y ∈ xs, ∀ d, f y = .error d → d = e) (member : x ∈ xs) (refused : f x = .error e) :
    xs.mapM f = .error e := by
  obtain ⟨d, all⟩ := exists_mapM_eq_error_iff.mpr ⟨x, member, e, refused⟩
  obtain ⟨front, y, rest, rfl, _, first⟩ := mapM_eq_error_iff.mp all
  rw [all, only y (by simp) d first]

/-- Tests in sequence are passed when each of them is. -/
theorem forM_eq_ok_iff {f : α → Except ε Unit} {xs : List α} :
    xs.forM f = .ok () ↔ ∀ x ∈ xs, f x = .ok () := by
  induction xs with
  | nil => simp [List.forM, pure, Except.pure]
  | cons x xs ih =>
      change (f x >>= fun _ => xs.forM f) = .ok () ↔ _
      rw [bind_eq_ok_iff, List.forall_mem_cons, ← ih]
      exact ⟨fun ⟨_, first, rest⟩ => ⟨first, rest⟩, fun ⟨first, rest⟩ => ⟨_, first, rest⟩⟩

/-- Tests in sequence fail with one of them. -/
theorem exists_mem_of_forM_eq_error {f : α → Except ε Unit} {xs : List α} {e : ε}
    (h : xs.forM f = .error e) : ∃ x ∈ xs, f x = .error e := by
  induction xs with
  | nil => cases h
  | cons x xs ih =>
      change (f x >>= fun _ => xs.forM f) = .error e at h
      cases first : f x with
      | error d =>
          rw [first] at h
          cases h
          exact ⟨x, List.mem_cons_self, first⟩
      | ok =>
          rw [first] at h
          obtain ⟨y, member, failed⟩ := ih h
          exact ⟨y, List.mem_cons_of_mem x member, failed⟩

/-- A list of partial answers is complete when each of them is there. -/
theorem mapM_eq_some_iff {f : α → Option β} {xs : List α} {ys : List β} :
    xs.mapM f = some ys ↔ List.Forall₂ (fun x y => f x = some y) xs ys := by
  induction xs generalizing ys with
  | nil => cases ys <;> simp
  | cons x xs ih =>
      rw [List.mapM_cons, List.forall₂_cons_left_iff]
      cases hx : f x with
      | none => simp
      | some y =>
          cases hxs : xs.mapM f with
          | none => simp [← ih, hxs]
          | some zs => simp [← ih, hxs, eq_comm]

/-- A list of partial answers is not complete when one of them is missing. -/
theorem mapM_eq_none_iff {f : α → Option β} {xs : List α} :
    xs.mapM f = none ↔ ∃ x ∈ xs, f x = none := by
  induction xs with
  | nil => simp
  | cons x xs ih =>
      rw [List.mapM_cons]
      simp only [List.mem_cons, exists_eq_or_imp, ← ih]
      cases f x with
      | none => simp
      | some y => cases xs.mapM f <;> simp

end Reservoir
