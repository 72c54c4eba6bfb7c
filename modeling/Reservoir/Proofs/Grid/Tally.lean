import Mathlib.Algebra.Ring.Nat
import Mathlib.Data.List.Nodup
import Mathlib.Data.List.Count
import Reservoir.Grid.Adjacency

/-!
# Tallies count

The tally of a list by a strict total order lists every member once, in ascending order, and
the number that stands beside a member is that of its occurrences. A list is therefore free of
repetitions exactly when no number of its tally is above one.
-/

namespace Reservoir

/-- A strict total order, as a test. -/
structure Ascends {α : Type} (before : α → α → Bool) : Prop where
  irrefl : ∀ a, before a a = false
  trans : ∀ a b c, before a b = true → before b c = true → before a c = true
  total : ∀ a b, a ≠ b → before a b = true ∨ before b a = true

theorem ascends_lt : Ascends fun m n : Nat => decide (m < n) where
  irrefl := by simp
  trans := by
    intro a b c
    simp only [decide_eq_true_eq]
    omega
  total := by
    intro a b
    simp only [decide_eq_true_eq]
    omega

theorem Adjacency.before_iff {p q : Nat × Nat} :
    before p q = true ↔ p.1 < q.1 ∨ p.1 = q.1 ∧ p.2 < q.2 := by
  simp [before]

theorem Adjacency.ascends_before : Ascends Adjacency.before where
  irrefl := by simp [before]
  trans := by
    intro a b c
    simp only [before_iff]
    omega
  total := by
    rintro ⟨a, b⟩ ⟨c, d⟩ ne
    rw [Ne, Prod.mk.injEq] at ne
    simp only [before_iff]
    omega

section Tally

variable {α : Type} [DecidableEq α] {before : α → α → Bool} {a b : α}

/-- The sum of all numbers that stand beside a member. -/
def tallied (a : α) (t : List (α × Nat)) : Nat :=
  ((t.filter fun e => decide (e.1 = a)).map (·.2)).sum

theorem mem_countOne {t : List (α × Nat)} {e : α × Nat} (h : e ∈ countOne before a t) :
    e.1 = a ∨ e ∈ t := by
  induction t with
  | nil =>
      rw [countOne, List.mem_singleton] at h
      exact .inl (by rw [h])
  | cons d rest ih =>
      obtain ⟨b, n⟩ := d
      rw [countOne] at h
      split at h
      · next same =>
        rcases List.mem_cons.mp h with rfl | h
        · exact .inl same.symm
        · exact .inr (List.mem_cons_of_mem _ h)
      · split at h
        · rcases List.mem_cons.mp h with rfl | h
          · exact .inl rfl
          · exact .inr h
        · rcases List.mem_cons.mp h with rfl | h
          · exact .inr List.mem_cons_self
          · exact (ih h).imp id (List.mem_cons_of_mem _)

theorem pairwise_countOne (order : Ascends before) {t : List (α × Nat)}
    (h : t.Pairwise fun d e => before d.1 e.1 = true) :
    (countOne before a t).Pairwise fun d e => before d.1 e.1 = true := by
  induction t with
  | nil => simp [countOne]
  | cons d rest ih =>
      obtain ⟨b, n⟩ := d
      obtain ⟨first, later⟩ := List.pairwise_cons.mp h
      rw [countOne]
      split
      · exact List.pairwise_cons.mpr ⟨first, later⟩
      · next ne =>
        split
        · next less =>
          refine List.pairwise_cons.mpr ⟨?_, h⟩
          intro e he
          rcases List.mem_cons.mp he with rfl | he
          · exact less
          · exact order.trans a b e.1 less (first e he)
        · next notLess =>
          refine List.pairwise_cons.mpr ⟨?_, ih later⟩
          intro e he
          rcases mem_countOne he with same | he
          · rw [same]
            exact (order.total a b ne).resolve_left notLess
          · exact first e he

theorem pairwise_tally (order : Ascends before) (xs : List α) :
    (tally before xs).Pairwise fun d e => before d.1 e.1 = true := by
  induction xs with
  | nil => exact List.Pairwise.nil
  | cons x xs ih => exact pairwise_countOne order ih

theorem tallied_countOne (t : List (α × Nat)) :
    tallied b (countOne before a t) = tallied b t + if a = b then 1 else 0 := by
  induction t with
  | nil => by_cases h : a = b <;> simp [countOne, tallied, h]
  | cons d rest ih =>
      obtain ⟨c, n⟩ := d
      rw [tallied] at ih
      rw [countOne]
      by_cases same : a = c
      · by_cases h : c = b <;> simp [tallied, same, h]
        omega
      · rw [if_neg same]
        split
        · by_cases h : a = b <;> simp [tallied, h]
          omega
        · by_cases h : c = b <;> simp [tallied, h] at ih ⊢ <;> omega

theorem tallied_tally (before : α → α → Bool) (a : α) (xs : List α) :
    tallied a (tally before xs) = xs.count a := by
  induction xs with
  | nil => rfl
  | cons x xs ih => simp [tallied_countOne, ih, List.count_cons]

theorem sum_countOne (t : List (α × Nat)) :
    ((countOne before a t).map (·.2)).sum = (t.map (·.2)).sum + 1 := by
  induction t with
  | nil => rfl
  | cons d rest ih =>
      obtain ⟨b, n⟩ := d
      rw [countOne]
      split
      · simp only [List.map_cons, List.sum_cons]
        omega
      · split
        · simp only [List.map_cons, List.sum_cons]
          omega
        · simp only [List.map_cons, List.sum_cons, ih]
          omega

/-- The numbers of a tally sum up to the length of the list. -/
theorem sum_tally (before : α → α → Bool) (xs : List α) :
    ((tally before xs).map (·.2)).sum = xs.length := by
  induction xs with
  | nil => rfl
  | cons x xs ih => rw [tally_cons, sum_countOne, ih, List.length_cons]

theorem mem_of_mem_tally {xs : List α} {e : α × Nat} (h : e ∈ tally before xs) : e.1 ∈ xs := by
  induction xs with
  | nil => cases h
  | cons x xs ih =>
      rcases mem_countOne h with same | h
      · rw [same]
        exact List.mem_cons_self
      · exact List.mem_cons_of_mem x (ih h)

/-- In an ascending tally a member stands once, beside all of its number. -/
theorem tallied_of_mem (order : Ascends before) {t : List (α × Nat)} {n : Nat}
    (h : t.Pairwise fun d e => before d.1 e.1 = true) (member : (a, n) ∈ t) :
    tallied a t = n := by
  have apart : ∀ b, before a b = true → b ≠ a := by
    rintro b less rfl
    rw [order.irrefl] at less
    cases less
  induction t with
  | nil => cases member
  | cons d rest ih =>
      obtain ⟨first, later⟩ := List.pairwise_cons.mp h
      rcases List.mem_cons.mp member with rfl | member
      · have none : rest.filter (fun e => decide (e.1 = a)) = [] := by
          rw [List.filter_eq_nil_iff]
          intro e he
          simpa using apart e.1 (first e he)
        simp [tallied, none]
      · have other : d.1 ≠ a := by
          intro same
          have less := first _ member
          rw [same, order.irrefl] at less
          cases less
        rw [← ih later member, tallied, tallied, List.filter_cons_of_neg (by simpa using other)]

variable {xs : List α}

/-- What a tally holds: every member, with the number of its occurrences. -/
theorem mem_tally_iff (order : Ascends before) {n : Nat} :
    (a, n) ∈ tally before xs ↔ a ∈ xs ∧ n = xs.count a := by
  have counted : ∀ m, (a, m) ∈ tally before xs → m = xs.count a := by
    intro m h
    rw [← tallied_tally before, tallied_of_mem order (pairwise_tally order xs) h]
  constructor
  · intro h
    exact ⟨mem_of_mem_tally h, counted n h⟩
  · rintro ⟨member, rfl⟩
    have some : tallied a (tally before xs) ≠ 0 := by
      rw [tallied_tally]
      exact Nat.ne_of_gt (List.count_pos_iff.mpr member)
    have kept : (tally before xs).filter (fun e => decide (e.1 = a)) ≠ [] := by
      intro none
      rw [tallied, none] at some
      exact some rfl
    obtain ⟨⟨b, m⟩, kept⟩ := List.exists_mem_of_ne_nil _ kept
    obtain ⟨entry, same⟩ := List.mem_filter.mp kept
    obtain rfl : b = a := by simpa using same
    rwa [← counted m entry]

theorem forall_mem_tally_iff_nodup (order : Ascends before) :
    (∀ e ∈ tally before xs, ¬1 < e.2) ↔ xs.Nodup := by
  rw [List.nodup_iff_count_le_one]
  constructor
  · intro single a
    by_cases member : a ∈ xs
    · exact Nat.not_lt.mp (single _ ((mem_tally_iff order).mpr ⟨member, rfl⟩))
    · rw [List.count_eq_zero_of_not_mem member]
      exact Nat.zero_le 1
  · rintro single ⟨a, n⟩ h
    rw [((mem_tally_iff order).mp h).2]
    exact Nat.not_lt.mpr (single a)

/-- The first member of a tally that occurs several times is the least one that does. -/
theorem find?_tally_eq_some_iff (order : Ascends before) {n : Nat} :
    (tally before xs).find? (fun e => decide (1 < e.2)) = some (a, n) ↔
      n = xs.count a ∧ 1 < n ∧ ∀ b, before b a = true → xs.count b ≤ 1 := by
  have ascending := pairwise_tally order xs
  rw [List.find?_eq_some_iff_append]
  constructor
  · rintro ⟨several, front, rest, split, few⟩
    have entry : (a, n) ∈ tally before xs := by simp [split]
    refine ⟨((mem_tally_iff order).mp entry).2, by simpa using several, ?_⟩
    intro b less
    by_cases member : b ∈ xs
    · have counted := (mem_tally_iff order).mpr ⟨member, rfl⟩
      rw [split] at counted ascending
      rcases List.mem_append.mp counted with earlier | later
      · simpa using few _ earlier
      · have notAfter : ¬before a b = true := by
          intro more
          have loop := order.trans a b a more less
          rw [order.irrefl] at loop
          cases loop
        rcases List.mem_cons.mp later with same | later
        · have same : b = a := (Prod.mk.inj same).1
          rw [same, order.irrefl] at less
          cases less
        · have after := (List.pairwise_cons.mp (List.pairwise_append.mp ascending).2.1).1
          exact absurd (after _ later) notAfter
    · rw [List.count_eq_zero_of_not_mem member]
      exact Nat.zero_le 1
  · rintro ⟨counted, several, least⟩
    have member : a ∈ xs := List.count_pos_iff.mp (by omega)
    obtain ⟨front, rest, split⟩ := List.append_of_mem ((mem_tally_iff order).mpr ⟨member, counted⟩)
    refine ⟨decide_eq_true several, front, rest, split, ?_⟩
    rintro ⟨b, m⟩ earlier
    have entry : (b, m) ∈ tally before xs := by simp [split, earlier]
    rw [split] at ascending
    have less := (List.pairwise_append.mp ascending).2.2 _ earlier _ List.mem_cons_self
    have few := least b less
    rw [← ((mem_tally_iff order).mp entry).2] at few
    simpa using few

/-- The members of a tally, without their numbers, are those of the list, without repetitions. -/
theorem nodup_map_fst_tally (order : Ascends before) (xs : List α) :
    ((tally before xs).map (·.1)).Nodup := by
  rw [List.Nodup, List.pairwise_map]
  refine (pairwise_tally order xs).imp ?_
  intro d e less same
  rw [same, order.irrefl] at less
  cases less

theorem mem_map_fst_tally (order : Ascends before) :
    a ∈ (tally before xs).map (·.1) ↔ a ∈ xs := by
  rw [List.mem_map]
  constructor
  · rintro ⟨e, he, rfl⟩
    exact mem_of_mem_tally he
  · intro member
    exact ⟨_, (mem_tally_iff order).mpr ⟨member, rfl⟩, rfl⟩

theorem map_fst_tally_perm (order : Ascends before) (distinct : xs.Nodup) :
    ((tally before xs).map (·.1)).Perm xs :=
  (List.perm_ext_iff_of_nodup (nodup_map_fst_tally order xs) distinct).mpr
    fun _ => mem_map_fst_tally order

/-- An ascending list is its own tally, with each member counted once. -/
theorem tally_of_pairwise (order : Ascends before)
    (h : xs.Pairwise fun a b => before a b = true) :
    tally before xs = xs.map fun a => (a, 1) := by
  induction xs with
  | nil => rfl
  | cons a rest ih =>
      obtain ⟨first, later⟩ := List.pairwise_cons.mp h
      rw [tally_cons, ih later]
      cases rest with
      | nil => rfl
      | cons b rest =>
          have less := first b List.mem_cons_self
          have apart : a ≠ b := by
            rintro rfl
            rw [order.irrefl] at less
            cases less
          rw [List.map_cons, countOne, if_neg apart, if_pos less]
          rfl

end Tally

end Reservoir
