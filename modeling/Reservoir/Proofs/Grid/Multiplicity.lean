import Mathlib.Order.MinMax
import Reservoir.Proofs.Grid.Refused

/-!
# The matrix of connections counts them

The matrix of a list of connections has one entry for each different connection, with the number
of times that it is listed. Its entries sum up to the number of connections, and those of a row
are as many as the different cells that connections lead down to from the cell of the row.

A matrix is made exactly when all ends of connections are numbers of rows. Its size may be given;
otherwise it is one more than the largest number. Numbers of more than 64 bits are no ends at
all, and a matrix that would have too many rows is not made.
-/

namespace Reservoir

namespace Adjacency

/-- What a matrix of connections holds. -/
structure Counts (a : Adjacency) (connections : List (Int × Int)) : Prop where
  inside : ∀ e ∈ a.entries, e.1.1 < a.size ∧ e.1.2 < a.size
  distinct : (a.entries.map (·.1)).Nodup
  mem_entries : ∀ u l n : Nat, ((u, l), n) ∈ a.entries ↔
    ((u : Int), (l : Int)) ∈ connections ∧ n = connections.count ((u : Int), (l : Int))
  total : (a.entries.map (·.2)).sum = connections.length
  row : ∀ u : Nat, (a.entries.filter fun e => e.1.1 = u).length =
    (Connections.lowerCells connections u).length
  column : ∀ l : Nat, (a.entries.filter fun e => e.1.2 = l).length =
    (Connections.upperCells connections l).length

variable {connections : List (Int × Int)}

theorem foldl_max_le_iff {m n : Int} :
    connections.foldl (fun n c => max n (max (c.1 + 1) (c.2 + 1))) m ≤ n ↔
      m ≤ n ∧ ∀ c ∈ connections, c.1 < n ∧ c.2 < n := by
  induction connections generalizing m with
  | nil => simp
  | cons c connections ih =>
      rw [List.foldl_cons, ih, List.forall_mem_cons]
      simp only [max_le_iff, Int.add_one_le_iff]
      tauto

theorem leastSize_le_iff {n : Int} :
    leastSize connections ≤ n ↔ 0 ≤ n ∧ ∀ c ∈ connections, c.1 < n ∧ c.2 < n :=
  foldl_max_le_iff

end Adjacency

namespace Connections

/-- The ends of connections. -/
def ends (connections : List (Int × Int)) : List Int :=
  connections.flatMap fun p => [p.1, p.2]

/-- The size of the matrix of connections: the one that is given, or one more than the largest
end. -/
def matrixSize (connections : List (Int × Int)) : Option Nat → Int
  | some n => n
  | none =>
    match (ends connections).max? with
    | some m => m + 1
    | none => 0

/-- An end of a connection is no row of a matrix, of a given size or of one that is to be found. -/
def Outside (size : Option Nat) (p : Int × Int) : Prop :=
  (p.1 < 0 ∨ p.2 < 0) ∨ ∃ n ∈ size, (n : Int) ≤ p.1 ∨ (n : Int) ≤ p.2

instance (size : Option Nat) (p : Int × Int) : Decidable (Outside size p) :=
  inferInstanceAs (Decidable (_ ∨ _))

variable {connections : List (Int × Int)} {size : Option Nat} {n : Nat}

theorem forall_mem_ends {P : Int → Prop} :
    (∀ z ∈ ends connections, P z) ↔ ∀ p ∈ connections, P p.1 ∧ P p.2 := by
  rw [ends, List.forall_mem_flatMap]
  simp only [List.forall_mem_cons, List.not_mem_nil, false_implies, implies_true, and_true]

/-- The least size is the one that is needed, and never negative. -/
theorem leastSize_eq_max (connections : List (Int × Int)) :
    Adjacency.leastSize connections = max 0 (matrixSize connections none) := by
  refine eq_of_forall_ge_iff fun n => ?_
  rw [Adjacency.leastSize_le_iff, max_le_iff, ← forall_mem_ends (P := (· < n))]
  refine and_congr_right fun nonneg => ?_
  rw [matrixSize]
  cases largest : (ends connections).max? with
  | none => simpa [List.max?_eq_none_iff.mp largest] using nonneg
  | some m =>
      obtain ⟨member, greatest⟩ := List.max?_eq_some_iff.mp largest
      constructor
      · exact fun below => Int.add_one_le_iff.mpr (below m member)
      · exact fun above z hz => Int.lt_of_le_of_lt (greatest z hz) (Int.add_one_le_iff.mp above)

/-- Connections without negative ends need the least size that holds them. -/
theorem leastSize_eq (nonneg : ∀ p ∈ connections, 0 ≤ p.1 ∧ 0 ≤ p.2) :
    Adjacency.leastSize connections = matrixSize connections none := by
  rw [leastSize_eq_max, max_eq_right]
  rw [matrixSize]
  cases largest : (ends connections).max? with
  | none => exact Int.le_refl 0
  | some m =>
      have member := (List.max?_eq_some_iff.mp largest).1
      exact Int.le_add_one (forall_mem_ends.mpr nonneg m member)

/-- Connections that have no end outside are between rows of the matrix. -/
theorem exists_size_of_inside (inside : ∀ p ∈ connections, ¬Outside size p) :
    ∃ n : Nat, matrixSize connections size = n ∧
      (size.map Nat.cast).getD (Adjacency.leastSize connections) = (n : Int) ∧
      ∀ p ∈ connections, Joins n p := by
  have nonneg : ∀ p ∈ connections, 0 ≤ p.1 ∧ 0 ≤ p.2 := by
    intro p hp
    have within := inside p hp
    rw [Outside] at within
    omega
  cases size with
  | some n =>
      refine ⟨n, rfl, rfl, fun p hp => ?_⟩
      have within := inside p hp
      simp only [Outside, Option.mem_some_iff, exists_eq_left'] at within
      rw [Joins]
      omega
  | none =>
      obtain ⟨least, below⟩ := Adjacency.leastSize_le_iff.mp
        (Int.le_refl (Adjacency.leastSize connections))
      obtain ⟨n, hn⟩ := Int.eq_ofNat_of_zero_le least
      refine ⟨n, (leastSize_eq nonneg).symm.trans hn, hn, fun p hp => ?_⟩
      have within := below p hp
      have nonneg := nonneg p hp
      rw [Joins]
      omega

theorem not_inside_of_outside (h : ∃ p ∈ connections, Outside size p) :
    ¬connections.all (Adjacency.inside
      ((size.map Nat.cast).getD (Adjacency.leastSize connections))) = true := by
  obtain ⟨p, hp, outside⟩ := h
  rw [List.all_eq_true]
  intro inside
  have within := inside p hp
  simp only [Adjacency.inside, Bool.and_eq_true, decide_eq_true_eq] at within
  rcases outside with negative | ⟨n, rfl, beyond⟩
  · omega
  · simp only [Option.map_some, Option.getD_some] at within
    omega

theorem ofConnections_of_outside (h : ∃ p ∈ connections, Outside size p) :
    Adjacency.ofConnections connections (size.map Nat.cast) = .error .outsideMatrix :=
  if_neg fun made => not_inside_of_outside h made.2

theorem ofConnections_of_inside {n : Nat} (inside : ∀ p ∈ connections, Joins n p)
    (same : (size.map Nat.cast).getD (Adjacency.leastSize connections) = (n : Int)) :
    Adjacency.ofConnections connections (size.map Nat.cast) =
      .ok (.ofPairs n (Adjacency.naturals connections)) := by
  have all : connections.all (Adjacency.inside n) = true :=
    List.all_eq_true.mpr fun p hp => inside_iff_joins.mpr (inside p hp)
  simp only [Adjacency.ofConnections, same]
  exact if_pos ⟨Int.natCast_nonneg n, all⟩

theorem mem_lowerCells_iff {c z : Int} :
    z ∈ lowerCells connections c ↔ (c, z) ∈ connections := by
  simp [lowerCells, and_comm]

theorem mem_upperCells_iff {c z : Int} :
    z ∈ upperCells connections c ↔ (z, c) ∈ connections := by
  rw [upperCells, mem_lowerCells_iff]
  exact List.mem_map_of_injective (f := Prod.swap) Prod.swap_injective (a := (z, c))

/-- Different positions with one end in common are as many as the other ends. -/
theorem length_filter_positions {positions : List (Nat × Nat)} {others : List Int}
    (distinct : positions.Nodup) (side other : Nat × Nat → Nat)
    (apart : ∀ p q, side p = side q → other p = other q → p = q) (c : Nat)
    (different : others.Nodup)
    (mem_others : ∀ z, z ∈ others ↔ ∃ p ∈ positions, side p = c ∧ (other p : Int) = z) :
    (positions.filter fun p => side p = c).length = others.length := by
  have ends : ((positions.filter fun p => side p = c).map fun p => (other p : Int)).Nodup := by
    refine (distinct.filter _).map_on ?_
    intro p hp q hq same
    have row : side p = c := of_decide_eq_true (List.mem_filter.mp hp).2
    have row' : side q = c := of_decide_eq_true (List.mem_filter.mp hq).2
    exact apart p q (row.trans row'.symm) (Int.ofNat_inj.mp same)
  have same : ((positions.filter fun p => side p = c).map fun p => (other p : Int)).Perm
      others := by
    rw [List.perm_ext_iff_of_nodup ends different]
    intro z
    rw [mem_others]
    simp only [List.mem_map, List.mem_filter, decide_eq_true_eq, and_assoc]
  rw [← same.length_eq, List.length_map]

/-- Entries are as many as their positions. -/
theorem length_filter_entries (entries : List ((Nat × Nat) × Nat)) (side : Nat × Nat → Nat)
    (c : Nat) :
    (entries.filter fun e => side e.1 = c).length =
      ((entries.map (·.1)).filter fun p => side p = c).length := by
  rw [List.filter_map, List.length_map]
  rfl

section Matrix

variable (inside : ∀ p ∈ connections, Joins n p)
include inside

theorem mem_naturals_iff {u l : Nat} :
    (u, l) ∈ Adjacency.naturals connections ↔ ((u : Int), (l : Int)) ∈ connections := by
  conv_rhs => rw [← map_cast_naturals inside]
  exact (List.mem_map_of_injective cast_injective).symm

theorem count_naturals (u l : Nat) :
    (Adjacency.naturals connections).count (u, l) =
      connections.count ((u : Int), (l : Int)) := by
  conv_rhs => rw [← map_cast_naturals inside]
  exact (List.count_map_of_injective _ _ cast_injective (u, l)).symm

/-- Connections between rows of a matrix are counted by it. -/
theorem counts_ofPairs_naturals :
    (Adjacency.ofPairs n (Adjacency.naturals connections)).Counts connections := by
  have distinct := nodup_map_fst_tally Adjacency.ascends_before (Adjacency.naturals connections)
  have position : ∀ p : Nat × Nat,
      p ∈ (tally Adjacency.before (Adjacency.naturals connections)).map (·.1) ↔
        ((p.1 : Int), (p.2 : Int)) ∈ connections :=
    fun p => (mem_map_fst_tally Adjacency.ascends_before).trans (mem_naturals_iff inside)
  refine ⟨?_, distinct, ?_, ?_, ?_, ?_⟩
  · intro e he
    have joined := inside _ ((position e.1).mp (List.mem_map_of_mem he))
    rw [Joins] at joined
    change e.1.1 < n ∧ e.1.2 < n
    omega
  · intro u l m
    rw [← count_naturals inside, ← mem_naturals_iff inside,
      lawful_beq_subsingleton instBEqProd instBEqOfDecidableEq]
    exact mem_tally_iff Adjacency.ascends_before
  · exact (sum_tally _ _).trans (List.length_map _)
  · intro u
    refine (length_filter_entries _ (·.1) u).trans (length_filter_positions distinct (·.1) (·.2)
      (fun _ _ => Prod.ext) u (List.nodup_dedup _) ?_)
    intro z
    rw [mem_lowerCells_iff]
    constructor
    · intro member
      obtain ⟨l, rfl⟩ := Int.eq_ofNat_of_zero_le (inside _ member).2.1
      exact ⟨(u, l), (position (u, l)).mpr member, rfl, rfl⟩
    · rintro ⟨p, hp, rfl, rfl⟩
      exact (position p).mp hp
  · intro l
    refine (length_filter_entries _ (·.2) l).trans (length_filter_positions distinct (·.2) (·.1)
      (fun _ _ lower upper => Prod.ext upper lower) l (List.nodup_dedup _) ?_)
    intro z
    rw [mem_upperCells_iff]
    constructor
    · intro member
      obtain ⟨u, rfl⟩ := Int.eq_ofNat_of_zero_le (inside _ member).1.1
      exact ⟨(u, l), (position (u, l)).mpr member, rfl, rfl⟩
    · rintro ⟨p, hp, rfl, rfl⟩
      exact (position p).mp hp

end Matrix

/-- What is made of connections: a matrix of the right size that counts them, unless some end of
one of them is no row. -/
structure MakesMatrix (connections : List (Int × Int)) (size : Option Nat)
    (found : Except InputFault Adjacency) : Prop where
  error_iff : (∃ e, found = .error e) ↔ ∃ p ∈ connections, Outside size p
  invalid : ∀ e, found = .error e → e.kind = .invalid
  matrix : ∀ a, found = .ok a → a.size = matrixSize connections size ∧ a.Counts connections

theorem makesMatrix_ofConnections :
    MakesMatrix connections size (Adjacency.ofConnections connections (size.map Nat.cast)) := by
  by_cases outside : ∃ p ∈ connections, Outside size p
  · rw [ofConnections_of_outside outside]
    refine ⟨iff_of_true ⟨_, rfl⟩ outside, ?_, nofun⟩
    rintro e ⟨⟩
    rfl
  · have within : ∀ p ∈ connections, ¬Outside size p := by simpa using outside
    obtain ⟨n, needed, same, inside⟩ := exists_size_of_inside within
    rw [ofConnections_of_inside inside same]
    refine ⟨iff_of_false nofun outside, nofun, ?_⟩
    rintro a ⟨⟩
    exact ⟨needed.symm, counts_ofPairs_naturals inside⟩

/-- The size that a matrix is to have, when it can have one. -/
theorem getD_leastSize (connections : List (Int × Int)) (size : Option Nat) :
    (size.map Nat.cast).getD (Adjacency.leastSize connections) =
      max 0 (matrixSize connections size) := by
  cases size with
  | none => exact leastSize_eq_max connections
  | some n => exact (max_eq_right (Int.natCast_nonneg n)).symm

/-- What comes of connections as they are given: a matrix as described, when the ends are
integers of 64 bits and an array can be as long as the matrix is to be. -/
structure ReadsMatrix (connections : List (Int × Int)) (size : Option Nat)
    (found : Except InputFault Adjacency) : Prop where
  narrow : (∀ z ∈ ends connections, Datum.InRange z) →
    matrixSize connections size < Adjacency.sizeLimit → MakesMatrix connections size found
  wide : (∃ z ∈ ends connections, ¬Datum.InRange z) → found = .error .tooLarge
  long : (∀ z ∈ ends connections, Datum.InRange z) →
    Adjacency.sizeLimit ≤ matrixSize connections size → ∃ e, found = .error e ∧
      e.kind = if matrixSize connections size ≤ Datum.integerRange.2 then .invalid else .overflow

/-- Reading connections, once their ends are integers of 64 bits. -/
theorem read_of_inRange (h : ∀ z ∈ ends connections, Datum.InRange z) :
    Adjacency.read (.ofPairs connections) (size.map Nat.cast) =
      if Datum.integerRange.2 < max 0 (matrixSize connections size) then .error .tooLarge
      else Adjacency.ofConnections connections (size.map Nat.cast) >>= fun matrix =>
        if max 0 (matrixSize connections size) < Adjacency.sizeLimit then pure matrix
        else throw .excessiveLength := by
  rw [Adjacency.read, Datum.pairs_ofPairs (forall_mem_ends.mp h), ← getD_leastSize]
  rfl

theorem readsMatrix_read (connections : List (Int × Int)) (size : Option Nat) :
    ReadsMatrix connections size
      (Adjacency.read (.ofPairs connections) (size.map Nat.cast)) := by
  refine ⟨?_, ?_, ?_⟩
  · intro inRange short
    have least : max 0 (matrixSize connections size) < Adjacency.sizeLimit :=
      max_lt (by decide) short
    have bounded : ¬Datum.integerRange.2 < max 0 (matrixSize connections size) :=
      not_lt_of_ge (least.le.trans (by decide))
    rw [read_of_inRange inRange, if_neg bounded]
    simp only [if_pos least, bind_pure]
    exact makesMatrix_ofConnections
  · rintro ⟨z, hz, wide⟩
    have refused : ¬∀ p ∈ connections, Datum.InRange p.1 ∧ Datum.InRange p.2 :=
      fun all => wide (forall_mem_ends.mpr all z hz)
    rw [Adjacency.read, Datum.pairs_ofPairs_of_wide refused]
    rfl
  · intro inRange long
    have least : max 0 (matrixSize connections size) = matrixSize connections size :=
      max_eq_right (le_trans (by decide) long)
    rw [read_of_inRange inRange, least]
    by_cases bounded : matrixSize connections size ≤ Datum.integerRange.2
    · rw [if_neg (not_lt_of_ge bounded), if_pos bounded]
      simp only [if_neg (not_lt_of_ge long)]
      cases made : Adjacency.ofConnections connections (size.map Nat.cast) with
      | ok matrix => exact ⟨_, rfl, rfl⟩
      | error e => exact ⟨e, rfl, makesMatrix_ofConnections.invalid e made⟩
    · rw [if_pos (lt_of_not_ge bounded), if_neg bounded]
      exact ⟨_, rfl, rfl⟩

example : Adjacency.read (.ofPairs [(2, 1), (0, 1), (2, 1), (2, 0)]) none =
    .ok ⟨3, [((0, 1), 1), ((2, 0), 1), ((2, 1), 2)]⟩ := rfl

/-- Not all connections without an end outside make a matrix: the ends can be too large for
integers of 64 bits, and the size too large for an array. -/
theorem not_makesMatrix_read_wide_long :
    ¬MakesMatrix [(100000000000000000000, 0)] none
        (Adjacency.read (.ofPairs [(100000000000000000000, 0)]) (Option.map Nat.cast none)) ∧
      ¬MakesMatrix [] (some 1152921504606846976)
        (Adjacency.read (.ofPairs []) (Option.map Nat.cast (some 1152921504606846976))) := by
  constructor
  · intro made
    exact absurd (made.error_iff.mp ⟨.tooLarge, rfl⟩) (by decide)
  · intro made
    exact absurd (made.error_iff.mp ⟨.excessiveLength, rfl⟩) (by decide)

end Connections

end Reservoir
