import Reservoir.Grid.SingleFile
import Reservoir.Proofs.Traverse

/-!
# Refusals of connections

Connections whose ends have all been found among the cells do have coordinates. What refuses
connections is therefore always a fault of the grid.
-/

namespace Reservoir

theorem exists_mapM_eq_some {α β : Type} {f : α → Option β} {xs : List α}
    (h : ∀ x ∈ xs, ∃ y, f x = some y) : ∃ ys, xs.mapM f = some ys := by
  induction xs with
  | nil => exact ⟨[], rfl⟩
  | cons x xs ih =>
      obtain ⟨y, hy⟩ := h x List.mem_cons_self
      obtain ⟨ys, hys⟩ := ih fun z hz => h z (List.mem_cons_of_mem x hz)
      exact ⟨y :: ys, by rw [List.mapM_cons, hy, hys]; rfl⟩

variable {connections : List (Int × Int)} {i j k : List Int}

/-- A connection between cells has an answer. -/
theorem exists_goesDown {n : Nat} (hi : i.length = n) (hj : j.length = n) (hk : k.length = n)
    {c : Nat × Nat} (upper : c.1 < n) (lower : c.2 < n) :
    ∃ b, goesDown? i.toArray j.toArray k.toArray c = some b := by
  subst hi
  simp [goesDown?, upper, lower, hj, hk]

theorem inside_of_checkCounts {n : Nat} (h : checkCounts connections n = .ok ()) :
    ∀ c ∈ Adjacency.naturals connections, c.1 < n ∧ c.2 < n := by
  rw [checkCounts] at h
  split at h
  · cases h
  · next all =>
    simp only [Bool.not_eq_true', Bool.not_eq_false, List.all_eq_true] at all
    intro c hc
    obtain ⟨p, hp, rfl⟩ := List.mem_map.mp hc
    have inside := all p hp
    simp only [Adjacency.inside, Bool.and_eq_true, decide_eq_true_eq] at inside
    omega

theorem kind_of_checkCounts {n : Nat} {e : GridFault} (h : checkCounts connections n = .error e) :
    e.kind = .grid := by
  rw [checkCounts] at h
  split at h
  · cases h
    rfl
  · simp only at h
    split at h
    · cases h
      rfl
    · split at h
      · cases h
        rfl
      · cases h
        rfl
      · cases h

theorem kind_of_checkAligned {pairs : List (Nat × Nat)} {e : GridFault}
    (coordinates : ∀ c ∈ pairs, ∃ b, goesDown? i.toArray j.toArray k.toArray c = some b)
    (h : checkAligned i j k pairs = .error e) : e.kind = .grid := by
  obtain ⟨downs, answered⟩ := exists_mapM_eq_some coordinates
  rw [checkAligned] at h
  rw [answered] at h
  simp only at h
  split at h
  · cases h
    rfl
  · cases h

/-- Refused connections of cells with coordinates are a fault of the grid. -/
theorem kind_of_checkSingleFile {e : GridFault} (hj : j.length = i.length)
    (hk : k.length = i.length) (h : checkSingleFile connections i j k = .error e) :
    e.kind = .grid := by
  rw [checkSingleFile] at h
  split at h
  · cases h
  · cases counts : checkCounts connections i.length with
    | error d =>
        rw [counts] at h
        cases h
        exact kind_of_checkCounts counts
    | ok =>
        rw [counts] at h
        refine kind_of_checkAligned ?_ h
        intro c hc
        obtain ⟨upper, lower⟩ := inside_of_checkCounts counts c hc
        exact exists_goesDown rfl hj hk upper lower

end Reservoir
