import Mathlib.Data.List.Dedup
import Mathlib.Data.Nat.Find
import Mathlib.Data.Prod.Basic
import Reservoir.Proofs.Datum.Plain
import Reservoir.Proofs.Grid.Accepted

/-!
# Connections that are refused

Connections that are not in single file are refused for the first rule that they break, in a
fixed order: a cell that there is not, a connection that is listed twice, a cell with several
cells below it, a cell with several cells above it, and a connection that does not go down its
column. Crowded cells are looked for from the least one on, connections in the order in which
they are listed. `Connections.FirstBroken` has one case for each rule.

The numbers of cells have to be integers of 64 bits: beyond that they are refused as numbers,
before any rule is looked at.
-/

namespace Reservoir

namespace Adjacency

variable {pairs : List (Nat × Nat)} {c m : Nat}

/-- What is found of several entries in one row, or in one column, is the least one, and the
number of pairs with this end. -/
theorem find?_crowded_eq_some_iff (side : Nat × Nat → Nat) (distinct : pairs.Nodup) :
    ((tally (fun m n => decide (m < n)) ((tally before pairs).map fun e => side e.1)).find?
      fun e => decide (1 < e.2)) = some (c, m) ↔ m = (pairs.map side).count c ∧ 1 < m ∧
        ∀ d < c, (pairs.map side).count d ≤ 1 := by
  have ends := (map_fst_tally_perm ascends_before distinct).map side
  rw [find?_tally_eq_some_iff ascends_lt]
  simp only [← ends.count_eq, List.map_map, Function.comp_def, decide_eq_true_eq]

/-- The cell that is reported to have several cells below it is the least one that has. -/
theorem crowdedBelow?_eq_some_iff (size : Nat) (distinct : pairs.Nodup) :
    (ofPairs size pairs).crowdedBelow? = some (c, m) ↔ m = (pairs.map (·.1)).count c ∧ 1 < m ∧
      ∀ d < c, (pairs.map (·.1)).count d ≤ 1 :=
  find?_crowded_eq_some_iff (·.1) distinct

/-- The cell that is reported to have several cells above it is the least one that has. -/
theorem crowdedAbove?_eq_some_iff (size : Nat) (distinct : pairs.Nodup) :
    (ofPairs size pairs).crowdedAbove? = some (c, m) ↔ m = (pairs.map (·.2)).count c ∧ 1 < m ∧
      ∀ d < c, (pairs.map (·.2)).count d ≤ 1 :=
  find?_crowded_eq_some_iff (·.2) distinct

end Adjacency

namespace Connections

/-- The coordinate of a cell in a list of coordinates. -/
def coordinate (xs : List Int) (c : Int) : Int := xs.getD c.toNat 0

/-- Both ends of a connection are cells. -/
def Joins (cells : Nat) (p : Int × Int) : Prop :=
  (0 ≤ p.1 ∧ p.1 < cells) ∧ 0 ≤ p.2 ∧ p.2 < cells

/-- A connection stays at its horizontal position and leads to a lower layer. -/
def GoesDown (i j k : List Int) (p : Int × Int) : Prop :=
  coordinate i p.1 = coordinate i p.2 ∧ coordinate j p.1 = coordinate j p.2 ∧
    coordinate k p.1 < coordinate k p.2

instance (cells : Nat) (p : Int × Int) : Decidable (Joins cells p) :=
  inferInstanceAs (Decidable ((_ ∧ _) ∧ _ ∧ _))

instance (i j k : List Int) (p : Int × Int) : Decidable (GoesDown i j k p) :=
  inferInstanceAs (Decidable (_ ∧ _ ∧ _))

/-- The different cells that connections lead down to from a cell. -/
def lowerCells (connections : List (Int × Int)) (c : Int) : List Int :=
  ((connections.filter fun p => p.1 = c).map (·.2)).dedup

/-- The different cells from which connections lead down to a cell. -/
def upperCells (connections : List (Int × Int)) (c : Int) : List Int :=
  lowerCells (connections.map Prod.swap) c

/-- Connections between cells that each go down, no cell being the upper end, or the lower end,
of two of them. -/
structure InSingleFile (connections : List (Int × Int)) (i j k : List Int) : Prop where
  inside : ∀ p ∈ connections, Joins i.length p
  outgoing : (connections.map (·.1)).Nodup
  incoming : (connections.map (·.2)).Nodup
  down : ∀ p ∈ connections, GoesDown i j k p

/-- The first rule that connections break, with the fault and its wording. In each case the
rules before it are kept. -/
inductive FirstBroken (connections : List (Int × Int)) (i j k : List Int) :
    GridFault → String → Prop
  | unknown {p : Int × Int} (member : p ∈ connections) (outside : ¬Joins i.length p) :
      FirstBroken connections i j k .unknownCell "Vertical connection refers to an unknown cell"
  | repeated {p : Int × Int} (inside : ∀ p ∈ connections, Joins i.length p)
      (twice : 1 < connections.count p) :
      FirstBroken connections i j k .repeated "Repeated vertical connection"
  | crowdedBelow {c : Nat} (inside : ∀ p ∈ connections, Joins i.length p)
      (distinct : connections.Nodup) (crowded : 1 < (lowerCells connections c).length)
      (least : ∀ d : Nat, d < c → (lowerCells connections d).length ≤ 1) :
      FirstBroken connections i j k (.crowded c (lowerCells connections c).length .below)
        ("Cell " ++ toString c ++ " has " ++ toString (lowerCells connections c).length ++
          " cells directly below it")
  | crowdedAbove {c : Nat} (inside : ∀ p ∈ connections, Joins i.length p)
      (distinct : connections.Nodup) (below : ∀ d, (lowerCells connections d).length ≤ 1)
      (crowded : 1 < (upperCells connections c).length)
      (least : ∀ d : Nat, d < c → (upperCells connections d).length ≤ 1) :
      FirstBroken connections i j k (.crowded c (upperCells connections c).length .above)
        ("Cell " ++ toString c ++ " has " ++ toString (upperCells connections c).length ++
          " cells directly above it")
  | askew {front rest : List (Int × Int)} {u l : Nat}
      (inside : ∀ p ∈ connections, Joins i.length p) (distinct : connections.Nodup)
      (below : ∀ d, (lowerCells connections d).length ≤ 1)
      (above : ∀ d, (upperCells connections d).length ≤ 1)
      (split : connections = front ++ ((u : Int), (l : Int)) :: rest)
      (down : ∀ p ∈ front, GoesDown i j k p) (astray : ¬GoesDown i j k (u, l)) :
      FirstBroken connections i j k (.askew u l)
        ("Vertical connection " ++ toString u ++ " -> " ++ toString l ++
          " does not go down a column")

variable {connections : List (Int × Int)} {i j k : List Int} {n : Nat}

theorem inside_iff_joins {p : Int × Int} : Adjacency.inside n p = true ↔ Joins n p := by
  simp only [Adjacency.inside, Joins, Bool.and_eq_true, decide_eq_true_eq]
  omega

/-- Connections between cells are their natural numbers. -/
theorem map_cast_naturals (inside : ∀ p ∈ connections, Joins n p) :
    (Adjacency.naturals connections).map (fun p => ((p.1 : Int), (p.2 : Int))) = connections := by
  rw [Adjacency.naturals, List.map_map]
  refine (List.map_congr_left fun p hp => ?_).trans (List.map_id connections)
  obtain ⟨⟨upper, _⟩, lower, _⟩ := inside p hp
  exact Prod.ext (Int.toNat_of_nonneg upper) (Int.toNat_of_nonneg lower)

theorem cast_injective : Function.Injective fun p : Nat × Nat => ((p.1 : Int), (p.2 : Int)) := by
  intro p q same
  obtain ⟨upper, lower⟩ := Prod.mk.inj same
  exact Prod.ext (Int.ofNat_inj.mp upper) (Int.ofNat_inj.mp lower)

theorem nodup_naturals_iff (inside : ∀ p ∈ connections, Joins n p) :
    (Adjacency.naturals connections).Nodup ↔ connections.Nodup := by
  conv_rhs => rw [← map_cast_naturals inside]
  exact (List.nodup_map_iff cast_injective).symm

/-- The ends of connections on one side, as natural numbers and as integers. -/
theorem map_end_eq (inside : ∀ p ∈ connections, Joins n p) (side : Int × Int → Int)
    (side' : Nat × Nat → Nat) (same : ∀ p : Nat × Nat, side (p.1, p.2) = side' p) :
    connections.map side = ((Adjacency.naturals connections).map side').map Nat.cast := by
  conv_lhs => rw [← map_cast_naturals inside]
  rw [List.map_map, List.map_map]
  exact List.map_congr_left fun p _ => same p

theorem count_end (inside : ∀ p ∈ connections, Joins n p) (side : Int × Int → Int)
    (side' : Nat × Nat → Nat) (same : ∀ p : Nat × Nat, side (p.1, p.2) = side' p) (c : Nat) :
    ((Adjacency.naturals connections).map side').count c =
      (connections.map side).count (c : Int) := by
  rw [map_end_eq inside side side' same]
  exact (List.count_map_of_injective _ _ (fun _ _ => Int.ofNat_inj.mp) c).symm

theorem nodup_end_iff (inside : ∀ p ∈ connections, Joins n p) (side : Int × Int → Int)
    (side' : Nat × Nat → Nat) (same : ∀ p : Nat × Nat, side (p.1, p.2) = side' p) :
    ((Adjacency.naturals connections).map side').Nodup ↔ (connections.map side).Nodup := by
  rw [map_end_eq inside side side' same, List.nodup_map_iff fun _ _ => Int.ofNat_inj.mp]

/-- Of connections that are listed once, a cell has as many cells below it as it is an upper
end. -/
theorem length_lowerCells (distinct : connections.Nodup) (c : Int) :
    (lowerCells connections c).length = (connections.map (·.1)).count c := by
  have different : ((connections.filter fun p => p.1 = c).map (·.2)).Nodup := by
    refine (distinct.filter _).map_on ?_
    intro p hp q hq same
    have upper : p.1 = c := by simpa using (List.mem_filter.mp hp).2
    have upper' : q.1 = c := by simpa using (List.mem_filter.mp hq).2
    exact Prod.ext (upper.trans upper'.symm) same
  rw [lowerCells, different.dedup, List.length_map, List.count, List.countP_map,
    List.countP_eq_length_filter]
  rfl

theorem length_upperCells (distinct : connections.Nodup) (c : Int) :
    (upperCells connections c).length = (connections.map (·.2)).count c := by
  rw [upperCells, length_lowerCells (distinct.map Prod.swap_injective), List.map_map]
  rfl

theorem length_lowerCells_le_one_iff (distinct : connections.Nodup) :
    (∀ c, (lowerCells connections c).length ≤ 1) ↔ (connections.map (·.1)).Nodup := by
  simp only [length_lowerCells distinct, List.nodup_iff_count_le_one]

theorem length_upperCells_le_one_iff (distinct : connections.Nodup) :
    (∀ c, (upperCells connections c).length ≤ 1) ↔ (connections.map (·.2)).Nodup := by
  simp only [length_upperCells distinct, List.nodup_iff_count_le_one]

section Joined

variable (inside : ∀ p ∈ connections, Joins n p)
include inside

/-- What is counted of connections between cells. -/
theorem checkCounts_of_joins :
    checkCounts connections n =
      let adjacency := Adjacency.ofPairs n (Adjacency.naturals connections)
      if adjacency.hasRepeats then .error .repeated
      else match adjacency.crowdedBelow?, adjacency.crowdedAbove? with
        | some (c, n), _ => .error (.crowded c n .below)
        | none, some (c, n) => .error (.crowded c n .above)
        | none, none => .ok () := by
  have all : (!connections.all (Adjacency.inside n)) = false := by
    simpa [inside_iff_joins] using inside
  rw [checkCounts, all]
  rfl

theorem hasRepeats_eq_false (distinct : connections.Nodup) :
    (Adjacency.ofPairs n (Adjacency.naturals connections)).hasRepeats = false :=
  (Adjacency.hasRepeats_eq_false_iff n).mpr ((nodup_naturals_iff inside).mpr distinct)

theorem crowdedBelow?_eq_none (distinct : connections.Nodup)
    (below : ∀ d, (lowerCells connections d).length ≤ 1) :
    (Adjacency.ofPairs n (Adjacency.naturals connections)).crowdedBelow? = none := by
  rw [Adjacency.crowdedBelow?_eq_none_iff n ((nodup_naturals_iff inside).mpr distinct),
    nodup_end_iff inside (·.1) (·.1) fun _ => rfl]
  exact (length_lowerCells_le_one_iff distinct).mp below

theorem crowdedAbove?_eq_none (distinct : connections.Nodup)
    (above : ∀ d, (upperCells connections d).length ≤ 1) :
    (Adjacency.ofPairs n (Adjacency.naturals connections)).crowdedAbove? = none := by
  rw [Adjacency.crowdedAbove?_eq_none_iff n ((nodup_naturals_iff inside).mpr distinct),
    nodup_end_iff inside (·.2) (·.2) fun _ => rfl]
  exact (length_upperCells_le_one_iff distinct).mp above

theorem crowdedBelow?_eq_some (distinct : connections.Nodup) {c : Nat}
    (crowded : 1 < (lowerCells connections c).length)
    (least : ∀ d : Nat, d < c → (lowerCells connections d).length ≤ 1) :
    (Adjacency.ofPairs n (Adjacency.naturals connections)).crowdedBelow? =
      some (c, (lowerCells connections c).length) := by
  rw [Adjacency.crowdedBelow?_eq_some_iff n ((nodup_naturals_iff inside).mpr distinct)]
  simp only [count_end inside (·.1) (·.1) fun _ => rfl, ← length_lowerCells distinct]
  exact ⟨trivial, crowded, least⟩

theorem crowdedAbove?_eq_some (distinct : connections.Nodup) {c : Nat}
    (crowded : 1 < (upperCells connections c).length)
    (least : ∀ d : Nat, d < c → (upperCells connections d).length ≤ 1) :
    (Adjacency.ofPairs n (Adjacency.naturals connections)).crowdedAbove? =
      some (c, (upperCells connections c).length) := by
  rw [Adjacency.crowdedAbove?_eq_some_iff n ((nodup_naturals_iff inside).mpr distinct)]
  simp only [count_end inside (·.2) (·.2) fun _ => rfl, ← length_upperCells distinct]
  exact ⟨trivial, crowded, least⟩

/-- A connection between cells has an answer: whether it goes down. -/
theorem goesDown?_eq_some (hi : i.length = n) (hj : j.length = n) (hk : k.length = n) :
    ∀ p ∈ connections, goesDown? i.toArray j.toArray k.toArray (p.1.toNat, p.2.toNat) =
      some (decide (GoesDown i j k p)) := by
  intro p hp
  have joined := inside p hp
  rw [Joins] at joined
  have upper : p.1.toNat < n := by omega
  have lower : p.2.toNat < n := by omega
  subst hi
  simp [goesDown?, GoesDown, coordinate, upper, lower, hj, hk, Bool.and_assoc, Bool.decide_and]
  rfl

/-- Connections between cells with coordinates are refused for the first one that is astray. -/
theorem checkAligned_eq (hi : i.length = n) (hj : j.length = n) (hk : k.length = n) :
    checkAligned i j k (Adjacency.naturals connections) =
      match connections.find? fun p => !decide (GoesDown i j k p) with
      | some (u, l) => .error (.askew u.toNat l.toNat)
      | none => .ok () := by
  have answered : (Adjacency.naturals connections).mapM
      (goesDown? i.toArray j.toArray k.toArray) =
        some (connections.map fun p => decide (GoesDown i j k p)) := by
    rw [Adjacency.naturals, List.mapM_map, mapM_eq_some_iff, List.forall₂_map_right_iff,
      List.forall₂_same]
    exact goesDown?_eq_some inside hi hj hk
  rw [checkAligned, answered]
  simp only [Adjacency.naturals, List.zip_map', List.find?_map, Function.comp_def]
  cases connections.find? fun p => !decide (GoesDown i j k p) <;> rfl

end Joined

/-- Connections that break a rule are there. -/
theorem FirstBroken.ne_nil {fault : GridFault} {text : String}
    (h : FirstBroken connections i j k fault text) : connections ≠ [] := by
  rintro rfl
  cases h with
  | unknown member => cases member
  | repeated inside twice => exact absurd twice (by simp)
  | crowdedBelow inside distinct crowded => exact absurd crowded (by simp [lowerCells])
  | crowdedAbove inside distinct below crowded =>
      exact absurd crowded (by simp [upperCells, lowerCells])
  | askew inside distinct below above split => simp at split

/-- Connections are refused for the first rule that they break. -/
theorem checkSingleFile_of_firstBroken (hj : j.length = i.length) (hk : k.length = i.length)
    {fault : GridFault} {text : String} (h : FirstBroken connections i j k fault text) :
    checkSingleFile connections i j k = .error fault := by
  have some : connections.isEmpty = false := by simpa using h.ne_nil
  rw [checkSingleFile, some]
  have refused : ∀ {e}, checkCounts connections i.length = .error e →
      (do
        checkCounts connections i.length
        checkAligned i j k (Adjacency.naturals connections)) = .error e := by
    intro e counted
    rw [counted]
    rfl
  -- In each case the tests of the rules before are passed, and the next one fails.
  cases h with
  | unknown member outside =>
      apply refused
      have unknown : (!connections.all (Adjacency.inside i.length)) = true := by
        rw [Bool.not_eq_true', List.all_eq_false]
        exact ⟨_, member, fun joined => outside (inside_iff_joins.mp joined)⟩
      rw [checkCounts, if_pos unknown]
  | @repeated p inside twice =>
      apply refused
      have repeats : ¬connections.Nodup := fun distinct =>
        absurd (List.nodup_iff_count_le_one.mp distinct p) (Nat.not_le.mpr twice)
      have listed : (Adjacency.ofPairs i.length (Adjacency.naturals connections)).hasRepeats =
          true := by
        rw [← Bool.not_eq_false, Adjacency.hasRepeats_eq_false_iff, nodup_naturals_iff inside]
        exact repeats
      rw [checkCounts_of_joins inside]
      exact if_pos listed
  | crowdedBelow inside distinct crowded least =>
      apply refused
      rw [checkCounts_of_joins inside]
      simp only [hasRepeats_eq_false inside distinct,
        crowdedBelow?_eq_some inside distinct crowded least]
      rfl
  | crowdedAbove inside distinct below crowded least =>
      apply refused
      rw [checkCounts_of_joins inside]
      simp only [hasRepeats_eq_false inside distinct, crowdedBelow?_eq_none inside distinct below,
        crowdedAbove?_eq_some inside distinct crowded least]
      rfl
  | @askew front rest u l inside distinct below above split down astray =>
      have counted : checkCounts connections i.length = .ok () := by
        rw [checkCounts_of_joins inside]
        simp only [hasRepeats_eq_false inside distinct,
          crowdedBelow?_eq_none inside distinct below,
          crowdedAbove?_eq_none inside distinct above]
        rfl
      have first : connections.find? (fun p => !decide (GoesDown i j k p)) =
          .some ((u : Int), (l : Int)) := by
        refine List.find?_eq_some_iff_append.mpr ⟨by simpa using astray, front, rest, split, ?_⟩
        intro p hp
        simpa using down p hp
      rw [counted]
      change checkAligned i j k (Adjacency.naturals connections) = _
      rw [checkAligned_eq inside rfl hj hk, first]
      rfl

/-- Connections are accepted when there are none, or when they are in single file. -/
theorem checkSingleFile_eq_ok_iff_inSingleFile (hj : j.length = i.length)
    (hk : k.length = i.length) :
    checkSingleFile connections i j k = .ok () ↔
      connections = [] ∨ InSingleFile connections i j k := by
  rw [checkSingleFile_eq_ok_iff]
  refine or_congr_right ⟨?_, ?_⟩
  · rintro ⟨inside, outgoing, incoming, down⟩
    have inside : ∀ p ∈ connections, Joins i.length p :=
      fun p hp => inside_iff_joins.mp (inside p hp)
    refine ⟨inside, (nodup_end_iff inside (·.1) (·.1) fun _ => rfl).mp outgoing,
      (nodup_end_iff inside (·.2) (·.2) fun _ => rfl).mp incoming, ?_⟩
    intro p hp
    have answer := goesDown?_eq_some inside rfl hj hk p hp
    rw [down _ (List.mem_map_of_mem hp)] at answer
    simpa using answer.symm
  · rintro ⟨inside, outgoing, incoming, down⟩
    refine ⟨fun p hp => inside_iff_joins.mpr (inside p hp),
      (nodup_end_iff inside (·.1) (·.1) fun _ => rfl).mpr outgoing,
      (nodup_end_iff inside (·.2) (·.2) fun _ => rfl).mpr incoming, ?_⟩
    intro c hc
    obtain ⟨p, hp, rfl⟩ := List.mem_map.mp hc
    rw [goesDown?_eq_some inside rfl hj hk p hp, decide_eq_true (down p hp)]

/-- If some cell has several cells below it, there is a least one. -/
theorem exists_least_crowded (nonneg : ∀ p ∈ connections, 0 ≤ p.1)
    (h : ¬∀ d, (lowerCells connections d).length ≤ 1) :
    ∃ c : Nat, 1 < (lowerCells connections c).length ∧
      ∀ d : Nat, d < c → (lowerCells connections d).length ≤ 1 := by
  push Not at h
  obtain ⟨z, crowded⟩ := h
  obtain ⟨l, hl⟩ := List.exists_mem_of_length_pos (Nat.lt_trans Nat.zero_lt_one crowded)
  rw [lowerCells, List.mem_dedup, List.mem_map] at hl
  obtain ⟨p, hp, _⟩ := hl
  obtain ⟨member, upper⟩ := List.mem_filter.mp hp
  have upper : p.1 = z := by simpa using upper
  obtain ⟨c, rfl⟩ := Int.eq_ofNat_of_zero_le (upper ▸ nonneg p member)
  have some : ∃ c : Nat, 1 < (lowerCells connections c).length := ⟨c, crowded⟩
  exact ⟨Nat.find some, Nat.find_spec some, fun d less => Nat.not_lt.mp (Nat.find_min some less)⟩

/-- If some connection does not go down, there is a first one. -/
theorem exists_first_astray (inside : ∀ p ∈ connections, Joins n p)
    (h : ∃ p ∈ connections, ¬GoesDown i j k p) :
    ∃ (u l : Nat) (front rest : List (Int × Int)),
      connections = front ++ ((u : Int), (l : Int)) :: rest ∧ (∀ p ∈ front, GoesDown i j k p) ∧
        ¬GoesDown i j k (u, l) := by
  have found : (connections.find? fun p => !decide (GoesDown i j k p)).isSome := by
    simpa [List.find?_isSome] using h
  obtain ⟨p, found⟩ := Option.isSome_iff_exists.mp found
  obtain ⟨astray, front, rest, split, down⟩ := List.find?_eq_some_iff_append.mp found
  obtain ⟨⟨upper, _⟩, lower, _⟩ := inside p (by simp [split])
  obtain ⟨u, hu⟩ := Int.eq_ofNat_of_zero_le upper
  obtain ⟨l, hl⟩ := Int.eq_ofNat_of_zero_le lower
  obtain rfl : p = ((u : Int), (l : Int)) := Prod.ext hu hl
  exact ⟨u, l, front, rest, split, by simpa using down, by simpa using astray⟩

/-- Connections that are not in single file break some rule first. -/
theorem exists_firstBroken (h : ¬InSingleFile connections i j k) :
    ∃ fault text, FirstBroken connections i j k fault text := by
  by_cases inside : ∀ p ∈ connections, Joins i.length p
  · by_cases distinct : connections.Nodup
    · by_cases below : ∀ d, (lowerCells connections d).length ≤ 1
      · by_cases above : ∀ d, (upperCells connections d).length ≤ 1
        · have astray : ∃ p ∈ connections, ¬GoesDown i j k p := by
            by_contra none
            push Not at none
            exact h ⟨inside, (length_lowerCells_le_one_iff distinct).mp below,
              (length_upperCells_le_one_iff distinct).mp above, none⟩
          obtain ⟨u, l, front, rest, split, down, astray⟩ := exists_first_astray inside astray
          exact ⟨_, _, .askew inside distinct below above split down astray⟩
        · have nonneg : ∀ p ∈ connections.map Prod.swap, 0 ≤ p.1 := by
            intro p hp
            obtain ⟨q, hq, rfl⟩ := List.mem_map.mp hp
            exact (inside q hq).2.1
          obtain ⟨c, crowded, least⟩ := exists_least_crowded nonneg above
          exact ⟨_, _, .crowdedAbove inside distinct below crowded least⟩
      · obtain ⟨c, crowded, least⟩ := exists_least_crowded (fun p hp => (inside p hp).1.1) below
        exact ⟨_, _, .crowdedBelow inside distinct crowded least⟩
    · rw [List.nodup_iff_count_le_one] at distinct
      push Not at distinct
      obtain ⟨p, twice⟩ := distinct
      exact ⟨_, _, .repeated inside twice⟩
  · push Not at inside
    obtain ⟨p, member, outside⟩ := inside
    exact ⟨_, _, .unknown member outside⟩

/-- A check accepts single-file connections and no others, and refuses the others for the first
rule that they break, in the words for this rule. -/
structure Checks (connections : List (Int × Int)) (i j k : List Int) (found : Except Fault Unit) :
    Prop where
  ok_iff : found = .ok () ↔ connections = [] ∨ InSingleFile connections i j k
  error_iff : ∀ e, found = .error e ↔
    ∃ fault text, e = .grid fault ∧ FirstBroken connections i j k fault text
  wording : ∀ fault text, FirstBroken connections i j k fault text →
    fault.kind = .grid ∧ fault.message? = some text

theorem FirstBroken.wording {fault : GridFault} {text : String}
    (h : FirstBroken connections i j k fault text) :
    fault.kind = .grid ∧ fault.message? = some text := by
  cases h with
  | unknown | repeated | askew => exact ⟨rfl, rfl⟩
  | crowdedBelow | crowdedAbove =>
      refine ⟨rfl, congrArg some ?_⟩
      simp only [Side.word, String.append_assoc]
      rfl

theorem checks_checkSingleFile (hj : j.length = i.length) (hk : k.length = i.length) :
    Checks connections i j k ((checkSingleFile connections i j k).mapError .grid) := by
  have accepted : checkSingleFile connections i j k = .ok () ↔
      connections = [] ∨ InSingleFile connections i j k :=
    checkSingleFile_eq_ok_iff_inSingleFile hj hk
  refine ⟨mapError_eq_ok_iff.trans accepted, ?_, fun _ _ broken => broken.wording⟩
  intro e
  constructor
  · intro refused
    have broken : ¬(connections = [] ∨ InSingleFile connections i j k) := by
      intro kept
      rw [accepted.mpr kept] at refused
      cases refused
    rw [not_or] at broken
    obtain ⟨fault, text, first⟩ := exists_firstBroken broken.2
    rw [checkSingleFile_of_firstBroken hj hk first] at refused
    cases refused
    exact ⟨fault, text, rfl, first⟩
  · rintro ⟨fault, text, rfl, first⟩
    rw [checkSingleFile_of_firstBroken hj hk first]
    rfl

/-- Connections between cells numbered by integers of 64 bits are checked for the rules of
single file. Any other number is refused for its size. -/
theorem checks_ofPairs (hj : j.length = i.length) (hk : k.length = i.length) :
    ((∀ p ∈ connections, Datum.InRange p.1 ∧ Datum.InRange p.2) →
      Checks connections i j k (check (.ofPairs connections) i j k)) ∧
    ((¬∀ p ∈ connections, Datum.InRange p.1 ∧ Datum.InRange p.2) →
      check (.ofPairs connections) i j k = .error (.input .tooLarge)) := by
  constructor
  · intro ends
    rw [check, Datum.pairs_ofPairs ends]
    exact checks_checkSingleFile hj hk
  · intro wide
    rw [check, Datum.pairs_ofPairs_of_wide wide]
    rfl

/-- A cell with two cells above it comes before a connection that is askew, which is listed
first. -/
theorem checks_ofPairs_crowded :
    ([0, 0, 0].length = [0, 0, 1].length ∧ [0, 1, 2].length = [0, 0, 1].length) ∧
    Checks [(1, 2), (0, 1), (2, 1)] [0, 0, 1] [0, 0, 0] [0, 1, 2]
      (check (.ofPairs [(1, 2), (0, 1), (2, 1)]) [0, 0, 1] [0, 0, 0] [0, 1, 2]) ∧
    check (.ofPairs [(1, 2), (0, 1), (2, 1)]) [0, 0, 1] [0, 0, 0] [0, 1, 2] =
      .error (.grid (.crowded 1 2 .above)) := by
  have checks : Checks [(1, 2), (0, 1), (2, 1)] [0, 0, 1] [0, 0, 0] [0, 1, 2]
      (check (.ofPairs [(1, 2), (0, 1), (2, 1)]) [0, 0, 1] [0, 0, 0] [0, 1, 2]) :=
    (@checks_ofPairs [(1, 2), (0, 1), (2, 1)] [0, 0, 1] [0, 0, 0] [0, 1, 2] rfl rfl).1 (by decide)
  have distinct : [((1 : Int), (2 : Int)), (0, 1), (2, 1)].Nodup := by decide
  have below : ∀ d, (lowerCells [(1, 2), (0, 1), (2, 1)] d).length ≤ 1 :=
    (length_lowerCells_le_one_iff distinct).mpr (by decide)
  have first : FirstBroken [(1, 2), (0, 1), (2, 1)] [0, 0, 1] [0, 0, 0] [0, 1, 2]
      (.crowded 1 2 .above) "Cell 1 has 2 cells directly above it" :=
    .crowdedAbove (by decide) distinct below (by decide) (by decide)
  exact ⟨⟨rfl, rfl⟩, checks, (checks.error_iff _).mpr ⟨_, _, rfl, first⟩⟩

/-- A cell with a number of more than 64 bits is unknown, but not refused as such. -/
theorem not_checks_wide :
    ¬Checks [(100000000000000000000, 0)] [0, 0] [0, 0] [0, 1]
      (check (.ofPairs [(100000000000000000000, 0)]) [0, 0] [0, 0] [0, 1]) := by
  intro checks
  have refused : check (.ofPairs [(100000000000000000000, 0)]) [0, 0] [0, 0] [0, 1] =
      .error (.input .tooLarge) := rfl
  obtain ⟨_, _, same, _⟩ := (checks.error_iff _).mp refused
  cases same

end Connections

end Reservoir
