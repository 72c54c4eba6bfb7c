import Reservoir.Proofs.Grid.SingleFile
import Reservoir.Proofs.Grid.Tally

/-!
# Connections that are accepted

Connections are in single file exactly when there are none, or all their ends are cells, no
cell is the upper end of two of them or the lower end of two, and each of them goes down. The
matrix of counts answers the middle two questions at once: without repeated connections, the
cells below a cell are as many as the connections it is the upper end of.
-/

namespace Reservoir

namespace Adjacency

variable {pairs : List (Nat × Nat)}

theorem hasRepeats_eq_false_iff (size : Nat) :
    (ofPairs size pairs).hasRepeats = false ↔ pairs.Nodup := by
  rw [← forall_mem_tally_iff_nodup ascends_before, hasRepeats, List.any_eq_false]
  simp [ofPairs]

/-- No entry of a matrix of distinct pairs shares its row, or its column, with another one, if
no pair does. -/
theorem find?_crowded_eq_none_iff (side : Nat × Nat → Nat) (distinct : pairs.Nodup) :
    ((tally (fun m n => decide (m < n)) ((tally before pairs).map fun e => side e.1)).find?
      fun e => decide (1 < e.2)) = none ↔ (pairs.map side).Nodup := by
  have ends := (map_fst_tally_perm ascends_before distinct).map side
  rw [← ends.nodup_iff, List.map_map, ← forall_mem_tally_iff_nodup ascends_lt,
    List.find?_eq_none]
  simp [Function.comp_def]

theorem crowdedBelow?_eq_none_iff (size : Nat) (distinct : pairs.Nodup) :
    (ofPairs size pairs).crowdedBelow? = none ↔ (pairs.map (·.1)).Nodup :=
  find?_crowded_eq_none_iff (·.1) distinct

theorem crowdedAbove?_eq_none_iff (size : Nat) (distinct : pairs.Nodup) :
    (ofPairs size pairs).crowdedAbove? = none ↔ (pairs.map (·.2)).Nodup :=
  find?_crowded_eq_none_iff (·.2) distinct

end Adjacency

variable {connections : List (Int × Int)} {i j k : List Int}

/-- The ends of connections are counted as they should be. -/
theorem checkCounts_eq_ok_iff {n : Nat} :
    checkCounts connections n = .ok () ↔
      (∀ c ∈ connections, Adjacency.inside n c = true) ∧
        ((Adjacency.naturals connections).map (·.1)).Nodup ∧
        ((Adjacency.naturals connections).map (·.2)).Nodup := by
  rw [checkCounts]
  by_cases inside : connections.all (Adjacency.inside n) = true
  · rw [if_neg (by simpa using inside)]
    rw [List.all_eq_true] at inside
    by_cases distinct : (Adjacency.naturals connections).Nodup
    · have single := (Adjacency.hasRepeats_eq_false_iff n).mpr distinct
      rw [← Adjacency.crowdedBelow?_eq_none_iff n distinct,
        ← Adjacency.crowdedAbove?_eq_none_iff n distinct]
      simp only [single, Bool.false_eq_true, if_false]
      constructor
      · intro h
        split at h
        · cases h
        · cases h
        · next below above => exact ⟨inside, below, above⟩
      · rintro ⟨-, below, above⟩
        rw [below, above]
    · have repeated : (Adjacency.ofPairs n (Adjacency.naturals connections)).hasRepeats = true := by
        rw [← Bool.not_eq_false, Adjacency.hasRepeats_eq_false_iff]
        exact distinct
      simp only [repeated, if_true]
      constructor
      · intro h
        cases h
      · rintro ⟨-, below, -⟩
        exact absurd below.of_map distinct
  · rw [if_pos (by simpa using inside)]
    rw [List.all_eq_true] at inside
    constructor
    · intro h
      cases h
    · exact fun h => absurd h.1 inside

/-- No connection is askew exactly when all of them are found to go down. -/
theorem checkAligned_eq_ok_iff {pairs : List (Nat × Nat)} :
    checkAligned i j k pairs = .ok () ↔
      ∀ c ∈ pairs, goesDown? i.toArray j.toArray k.toArray c = some true := by
  rw [checkAligned]
  constructor
  · intro h c hc
    split at h
    · cases h
    · next downs answered =>
      have related := mapM_eq_some_iff.mp answered
      obtain ⟨n, hn, rfl⟩ := List.mem_iff_getElem.mp hc
      have place : n < downs.length := related.length_eq ▸ hn
      have answer := related.get hn place
      split at h
      · cases h
      · next straight =>
        have both : n < (pairs.zip downs).length := by
          rw [List.length_zip]
          omega
        have member := List.getElem_mem both
        rw [List.getElem_zip] at member
        have down := List.find?_eq_none.mp straight _ member
        simp only [List.get_eq_getElem] at answer
        rw [answer]
        simpa using down
  · intro downs
    have answered : pairs.mapM (goesDown? i.toArray j.toArray k.toArray) =
        some (pairs.map fun _ => true) := by
      rw [mapM_eq_some_iff, List.forall₂_map_right_iff, List.forall₂_same]
      exact downs
    have straight : (pairs.zip (pairs.map fun _ => true)).find? (!·.2) = none := by
      rw [List.find?_eq_none]
      rintro ⟨c, down⟩ member
      obtain ⟨_, _, rfl⟩ := List.mem_map.mp (List.of_mem_zip member).2
      simp
    rw [answered]
    simp only [straight]

/-- What connections in single file are. -/
theorem checkSingleFile_eq_ok_iff :
    checkSingleFile connections i j k = .ok () ↔ connections = [] ∨
      (∀ c ∈ connections, Adjacency.inside i.length c = true) ∧
        ((Adjacency.naturals connections).map (·.1)).Nodup ∧
        ((Adjacency.naturals connections).map (·.2)).Nodup ∧
        ∀ c ∈ Adjacency.naturals connections,
          goesDown? i.toArray j.toArray k.toArray c = some true := by
  rw [checkSingleFile]
  by_cases none : connections = []
  · simp [none]
  · have some : connections.isEmpty = false := by simpa using none
    simp only [some, none, Bool.false_eq_true, if_false, false_or]
    rw [bind_eq_ok_iff]
    constructor
    · rintro ⟨⟨⟩, counted, aligned⟩
      obtain ⟨inside, below, above⟩ := checkCounts_eq_ok_iff.mp counted
      exact ⟨inside, below, above, checkAligned_eq_ok_iff.mp aligned⟩
    · rintro ⟨inside, below, above, down⟩
      exact ⟨(), checkCounts_eq_ok_iff.mpr ⟨inside, below, above⟩,
        checkAligned_eq_ok_iff.mpr down⟩

end Reservoir
