import Mathlib.Data.List.Nodup
import Reservoir.Proofs.Grid.GivenColumns
import Reservoir.Proofs.Grid.Vertical

/-!
# Chains of connected cells

Connections that are accepted lead down the columns that are extracted, and no cell has two of
them on one side. From every cell they can therefore be followed downward in one way only,
through cells of its column that lie lower and lower, and upward in one way only, to the top of
the chain that the cell is in.
-/

namespace Reservoir

/-- The cell that a connection leads to from a cell. -/
def cellBelow? (pairs : List (Nat × Nat)) (c : Nat) : Option Nat :=
  (pairs.find? (·.1 == c)).map (·.2)

/-- The cell that is reached when connections are followed downward some number of times. -/
def descend? (pairs : List (Nat × Nat)) (c : Nat) : Nat → Option Nat
  | 0 => some c
  | k + 1 => (descend? pairs c k).bind (cellBelow? pairs)

/-- A cell without a connection from above, from which another cell is reached. -/
def IsTop (pairs : List (Nat × Nat)) (t c : Nat) : Prop :=
  (∀ p ∈ pairs, p.2 ≠ t) ∧ ∃ k, descend? pairs t k = some c

/-- Entries of a list, one before the other. -/
def Precedes (column : List Nat) (a b : Nat) : Prop :=
  ∃ m n : Nat, m < n ∧ column[m]? = some a ∧ column[n]? = some b

/-- Connections in single file: every cell stands once in the columns, every connection leads
down one of these, and no cell is the upper end, or the lower end, of two connections. -/
structure SingleFile (cells : Nat) (pairs : List (Nat × Nat)) (columns : List (List Nat)) :
    Prop where
  perm : columns.flatten.Perm (List.range cells)
  down : ∀ p ∈ pairs, ∃ column ∈ columns, Precedes column p.1 p.2
  outgoing : (pairs.map (·.1)).Nodup
  incoming : (pairs.map (·.2)).Nodup

/-- Connections followed from a cell visit different cells of its column, in the order of the
column, and come to an end within it. -/
structure DescendsIn (pairs : List (Nat × Nat)) (column : List Nat) (c : Nat) : Prop where
  mem : c ∈ column
  chain : ∃ chain : List Nat, chain.Sublist column ∧ chain.Nodup ∧
    ∀ k, descend? pairs c k = chain[k]?
  stops : ∀ k, column.length - 1 < k → descend? pairs c k = none

/-- Chains of connections: every cell descends in a column and belongs to the chain below one
top, and chains that meet have the same top. -/
structure Chains (cells : Nat) (pairs : List (Nat × Nat)) (columns : List (List Nat)) :
    Prop where
  descends : ∀ c < cells, ∃ column ∈ columns, DescendsIn pairs column c
  top : ∀ c < cells, ∃! t, IsTop pairs t c
  meet : ∀ c d k m x, descend? pairs c k = some x → descend? pairs d m = some x →
    ∀ t t', IsTop pairs t c → IsTop pairs t' d → t = t'

section Descend

variable {pairs : List (Nat × Nat)} {c : Nat}

theorem descend?_succ_eq (pairs : List (Nat × Nat)) (c k : Nat) :
    descend? pairs c (k + 1) = (cellBelow? pairs c).bind fun l => descend? pairs l k := by
  induction k with
  | zero =>
      show cellBelow? pairs c = (cellBelow? pairs c).bind some
      rw [Option.bind_fun_some]
  | succ k ih =>
      rw [descend?, ih, Option.bind_assoc]
      rfl

theorem descend?_add (pairs : List (Nat × Nat)) (c k m : Nat) :
    descend? pairs c (k + m) = (descend? pairs c k).bind fun d => descend? pairs d m := by
  induction m with
  | zero =>
      show descend? pairs c k = (descend? pairs c k).bind some
      rw [Option.bind_fun_some]
  | succ m ih =>
      rw [← Nat.add_assoc, descend?, ih, Option.bind_assoc]
      rfl

theorem mem_of_cellBelow? {l : Nat} (h : cellBelow? pairs c = some l) : (c, l) ∈ pairs := by
  obtain ⟨p, found, rfl⟩ := Option.map_eq_some_iff.mp h
  have upper : p.1 = c := by simpa using List.find?_some found
  rw [← upper]
  exact List.mem_of_find?_eq_some found

theorem exists_mem_of_descend?_succ {k x : Nat} (h : descend? pairs c (k + 1) = some x) :
    ∃ u, descend? pairs c k = some u ∧ (u, x) ∈ pairs := by
  obtain ⟨u, reached, below⟩ := Option.bind_eq_some_iff.mp h
  exact ⟨u, reached, mem_of_cellBelow? below⟩

/-- What is reached from a cell has the same tops. -/
theorem IsTop.of_descend? {t k x : Nat} (h : IsTop pairs t c)
    (reached : descend? pairs c k = some x) : IsTop pairs t x := by
  obtain ⟨free, m, descends⟩ := h
  refine ⟨free, m + k, ?_⟩
  rw [descend?_add, descends]
  exact reached

end Descend

namespace SingleFile

variable {cells : Nat} {pairs : List (Nat × Nat)} {columns : List (List Nat)}
  {column : List Nat} {c u l m : Nat}

theorem cellBelow?_of_mem (h : SingleFile cells pairs columns) (hp : (u, l) ∈ pairs) :
    cellBelow? pairs u = some l := by
  cases below : cellBelow? pairs u with
  | none =>
      rw [cellBelow?, Option.map_eq_none_iff, List.find?_eq_none] at below
      exact absurd (beq_self_eq_true u) (below (u, l) hp)
  | some k =>
      have same := List.inj_on_of_nodup_map h.outgoing (mem_of_cellBelow? below) hp rfl
      exact congrArg some (Prod.mk.inj same).2

theorem exists_column (h : SingleFile cells pairs columns) (hc : c < cells) :
    ∃ column ∈ columns, c ∈ column :=
  List.mem_flatten.mp (h.perm.mem_iff.mpr (List.mem_range.mpr hc))

theorem nodup_flatten (h : SingleFile cells pairs columns) : columns.flatten.Nodup :=
  h.perm.nodup_iff.mpr List.nodup_range

theorem nodup_column (h : SingleFile cells pairs columns) (hc : column ∈ columns) :
    column.Nodup :=
  h.nodup_flatten.sublist (List.sublist_flatten_of_mem hc)

theorem column_unique (h : SingleFile cells pairs columns) {other : List Nat}
    (hc : column ∈ columns) (ho : other ∈ columns) (member : c ∈ column) (member' : c ∈ other) :
    column = other := by
  by_contra ne
  have symmetric : Std.Symm (List.Disjoint : List Nat → List Nat → Prop) :=
    ⟨fun _ _ => List.disjoint_symm⟩
  exact (List.nodup_flatten.mp h.nodup_flatten).2.forall hc ho ne member member'

/-- A connection leads down the column that one of its ends is in. -/
theorem precedes (h : SingleFile cells pairs columns) (hc : column ∈ columns)
    (hp : (u, l) ∈ pairs) (member : u ∈ column ∨ l ∈ column) : Precedes column u l := by
  obtain ⟨other, ho, m, n, less, at_m, at_n⟩ := h.down (u, l) hp
  have same : column = other := by
    rcases member with upper | lower
    · exact h.column_unique hc ho upper (List.mem_of_getElem? at_m)
    · exact h.column_unique hc ho lower (List.mem_of_getElem? at_n)
  rw [same]
  exact ⟨m, n, less, at_m, at_n⟩

theorem place_unique (h : SingleFile cells pairs columns) (hc : column ∈ columns) {n : Nat}
    (at_m : column[m]? = some c) (at_n : column[n]? = some c) : m = n :=
  (List.getElem?_inj (List.getElem?_eq_some_iff.mp at_m).1 (h.nodup_column hc)).mp
    (at_m.trans at_n.symm)

/-- The cells that are reached from a cell lie below it in its column. The induction is on how
much of the column is left. -/
theorem exists_chain (h : SingleFile cells pairs columns) (hc : column ∈ columns)
    (at_m : column[m]? = some c) :
    ∃ chain : List Nat, chain.Sublist (column.drop m) ∧ ∀ k, descend? pairs c k = chain[k]? := by
  induction left : column.length - m using Nat.strong_induction_on generalizing m c with
  | _ left' ih =>
    subst left
    obtain ⟨inside, here⟩ := List.getElem?_eq_some_iff.mp at_m
    rw [List.drop_eq_getElem_cons inside, here]
    cases below : cellBelow? pairs c with
    | none =>
        refine ⟨[c], List.singleton_sublist.mpr List.mem_cons_self, ?_⟩
        intro k
        cases k with
        | zero => rfl
        | succ k =>
            rw [descend?_succ_eq, below]
            rfl
    | some l =>
        obtain ⟨m', n, less, at_m', at_n⟩ :=
          h.precedes hc (mem_of_cellBelow? below) (.inl (List.mem_of_getElem? at_m))
        obtain rfl := h.place_unique hc at_m at_m'
        have shorter : column.length - n < column.length - m := by omega
        obtain ⟨chain, sub, follows⟩ := ih _ shorter at_n rfl
        refine ⟨c :: chain, ?_, ?_⟩
        · exact (sub.trans (List.drop_sublist_drop_left column less)).cons_cons c
        · intro k
          cases k with
          | zero => rfl
          | succ k =>
              rw [descend?_succ_eq, below, List.getElem?_cons_succ, ← follows]
              rfl

theorem descendsIn (h : SingleFile cells pairs columns) (hc : column ∈ columns)
    (member : c ∈ column) : DescendsIn pairs column c := by
  obtain ⟨m, at_m⟩ := List.mem_iff_getElem?.mp member
  obtain ⟨chain, sub, follows⟩ := h.exists_chain hc at_m
  have sub := sub.trans (List.drop_sublist m column)
  refine ⟨member, ⟨chain, sub, (h.nodup_column hc).sublist sub, follows⟩, ?_⟩
  intro k far
  rw [follows, List.getElem?_eq_none_iff]
  have := sub.length_le
  omega

/-- Above every cell there is a top. The induction is on how far down the cell is. -/
theorem exists_isTop (h : SingleFile cells pairs columns) (hc : column ∈ columns)
    (at_m : column[m]? = some c) : ∃ t, IsTop pairs t c := by
  induction m using Nat.strong_induction_on generalizing c with
  | _ m ih =>
    by_cases above : ∃ p ∈ pairs, p.2 = c
    · obtain ⟨⟨u, l⟩, hp, rfl⟩ := above
      obtain ⟨n, m', less, at_n, at_m'⟩ := h.precedes hc hp (.inr (List.mem_of_getElem? at_m))
      obtain rfl := h.place_unique hc at_m at_m'
      obtain ⟨t, top⟩ := ih n less at_n
      have reached : descend? pairs u 1 = some l := h.cellBelow?_of_mem hp
      exact ⟨t, top.of_descend? reached⟩
    · push Not at above
      exact ⟨c, above, 0, rfl⟩

/-- There is one top above a cell, since there is one way up. The induction is on the steps down
from one of two tops. -/
theorem isTop_unique (h : SingleFile cells pairs columns) {t t' : Nat} (ht : IsTop pairs t c)
    (ht' : IsTop pairs t' c) : t = t' := by
  obtain ⟨free, k, reached⟩ := ht
  obtain ⟨free', k', reached'⟩ := ht'
  induction k generalizing c k' with
  | zero =>
      cases reached
      cases k' with
      | zero =>
          cases reached'
          rfl
      | succ k' =>
          obtain ⟨u, _, hp⟩ := exists_mem_of_descend?_succ reached'
          exact absurd rfl (free _ hp)
  | succ k ih =>
      obtain ⟨u, reached, hp⟩ := exists_mem_of_descend?_succ reached
      cases k' with
      | zero =>
          cases reached'
          exact absurd rfl (free' _ hp)
      | succ k' =>
          obtain ⟨v, reached', hp'⟩ := exists_mem_of_descend?_succ reached'
          have same := List.inj_on_of_nodup_map h.incoming hp hp' rfl
          obtain rfl := (Prod.mk.inj same).1
          exact ih reached k' reached'

/-- Connections in single file form chains. -/
theorem chains (h : SingleFile cells pairs columns) : Chains cells pairs columns := by
  refine ⟨?_, ?_, ?_⟩
  · intro c hc
    obtain ⟨column, member, stands⟩ := h.exists_column hc
    exact ⟨column, member, h.descendsIn member stands⟩
  · intro c hc
    obtain ⟨column, member, stands⟩ := h.exists_column hc
    obtain ⟨m, at_m⟩ := List.mem_iff_getElem?.mp stands
    obtain ⟨t, top⟩ := h.exists_isTop member at_m
    exact ⟨t, top, fun _ other => h.isTop_unique other top⟩
  · intro c d k m x reached reached' t t' top top'
    exact h.isTop_unique (top.of_descend? reached) (top'.of_descend? reached')

end SingleFile

namespace Topology

variable {t : Topology} {columns : List (List Nat)}

/-- Cells at one place, one in a higher layer, stand in one column in this order. -/
theorem Partition.precedes (h : t.Partition columns) {u l : Nat} (hu : u < t.cells.length)
    (hl : l < t.cells.length)
    (place : (t.position u).fmod t.layer = (t.position l).fmod t.layer)
    (down : (t.position u).fdiv t.layer < (t.position l).fdiv t.layer) :
    ∃ column ∈ columns, Precedes column u l := by
  obtain ⟨column, hc, upper⟩ := h.exists_column hu
  obtain ⟨other, ho, lower⟩ := h.exists_column hl
  obtain rfl := h.column_eq hc ho upper lower place
  obtain ⟨m, hm, rfl⟩ := List.mem_iff_getElem.mp upper
  obtain ⟨n, hn, rfl⟩ := List.mem_iff_getElem.mp lower
  refine ⟨column, hc, m, n, ?_, List.getElem?_eq_getElem hm, List.getElem?_eq_getElem hn⟩
  by_contra above
  rcases Nat.eq_or_lt_of_le (Nat.not_lt.mp above) with rfl | less
  · exact absurd down (Int.lt_irrefl _)
  · have up := List.pairwise_iff_getElem.mp (h.downward column hc) n m hn hm less
    omega

/-- A connection that goes down leads to a lower layer of the same place. -/
theorem down_of_goesDown? {p : Nat × Nat} (upper : p.1 < t.cells.length)
    (lower : p.2 < t.cells.length)
    (h : goesDown? (t.cells.map t.coordI).toArray (t.cells.map t.coordJ).toArray
      (t.cells.map t.coordK).toArray p = some true) :
    (t.position p.1).fmod t.layer = (t.position p.2).fmod t.layer ∧
      (t.position p.1).fdiv t.layer < (t.position p.2).fdiv t.layer := by
  rw [goesDown?_eq (getElem?_cells upper) (getElem?_cells lower)] at h
  simp only [Option.some.injEq, Bool.and_eq_true, beq_iff_eq, decide_eq_true_eq] at h
  obtain ⟨⟨i, j⟩, k⟩ := h
  refine ⟨?_, k⟩
  rw [← place_eq_fmod, ← place_eq_fmod, place, place, i, j]

/-- Connections that are accepted are pairs of cells in single file. -/
theorem singleFile_of_columns (nonempty : t.cells ≠ []) (found : t.columns = .ok columns) :
    ∃ pairs : List (Nat × Nat),
      t.connections.getD [] = pairs.map (fun p => ((p.1 : Int), (p.2 : Int))) ∧
        SingleFile t.cells.length pairs columns := by
  obtain ⟨_, _, connected, _⟩ := (columns_eq_ok_iff nonempty).mp found
  have partition := partition_of_columns found
  have unconnected : SingleFile t.cells.length [] columns :=
    ⟨partition.perm, nofun, .nil, .nil⟩
  rw [checkConnections] at connected
  cases connections : t.connections with
  | none => exact ⟨[], rfl, unconnected⟩
  | some cs =>
      simp only [connections] at connected
      rcases checkSingleFile_eq_ok_iff.mp connected with rfl | ⟨inside, outgoing, incoming, down⟩
      · exact ⟨[], rfl, unconnected⟩
      · rw [List.length_map] at inside
        have ends : ∀ c ∈ cs, (0 ≤ c.1 ∧ 0 ≤ c.2) ∧ c.1.toNat < t.cells.length ∧
            c.2.toNat < t.cells.length := by
          intro c hc
          have inside := inside c hc
          simp only [Adjacency.inside, Bool.and_eq_true, decide_eq_true_eq] at inside
          omega
        refine ⟨Adjacency.naturals cs, ?_, partition.perm, ?_, outgoing, incoming⟩
        · rw [Option.getD_some, Adjacency.naturals, List.map_map]
          refine (List.map_id cs).symm.trans (List.map_congr_left fun c hc => ?_)
          obtain ⟨⟨upper, lower⟩, _⟩ := ends c hc
          exact Prod.ext (Int.toNat_of_nonneg upper).symm (Int.toNat_of_nonneg lower).symm
        · intro p hp
          obtain ⟨c, hc, rfl⟩ := List.mem_map.mp hp
          obtain ⟨_, upper, lower⟩ := ends c hc
          obtain ⟨place, layer⟩ := down_of_goesDown? upper lower (down _ hp)
          exact partition.precedes upper lower place layer

end Topology

namespace GivenTopology

variable {nx ny nz : Int} {cells : List Int} {connections : Option (List (Int × Int))}

/-- Wherever columns are extracted from cells, whatever the dimensions and whatever pairs of
cells are given, the pairs are connections in single file, and these form chains. -/
theorem chains_ofIntegers {columns : List (Block Nat)} (nonempty : cells ≠ [])
    (found : (ofIntegers nx ny nz cells connections).columns = .ok columns) :
    ∃ (lists : List (List Nat)) (pairs : List (Nat × Nat)),
      columns = lists.map .flat ∧
        connections.getD [] = pairs.map (fun p => ((p.1 : Int), (p.2 : Int))) ∧
        SingleFile cells.length pairs lists ∧ Chains cells.length pairs lists := by
  obtain ⟨read, given, _⟩ := bind_eq_ok_iff.mp found
  obtain ⟨first, layer, positions, ends⟩ := inRange_of_read nonempty given
  rw [columns_ofIntegers first layer positions ends] at found
  obtain ⟨lists, extracted, rfl⟩ := map_eq_ok_iff.mp found
  obtain ⟨pairs, connected, single⟩ :=
    Topology.singleFile_of_columns nonempty (mapError_eq_ok_iff.mp extracted)
  exact ⟨lists, pairs, rfl, connected, single, single.chains⟩

/-- A column of three cells, whose connections are given from the bottom up, beside a column of
one cell. -/
theorem chains_ofIntegers_twoColumns :
    [6, 1, 0, 4] ≠ ([] : List Int) ∧ ∃ columns,
      (ofIntegers 2 1 4 [6, 1, 0, 4] (some [(3, 0), (2, 3)])).columns = .ok columns ∧
      ∃ (lists : List (List Nat)) (pairs : List (Nat × Nat)),
        columns = lists.map .flat ∧
          [((3 : Int), (0 : Int)), (2, 3)] = pairs.map (fun p => ((p.1 : Int), (p.2 : Int))) ∧
          SingleFile 4 pairs lists ∧ Chains 4 pairs lists := by
  have found : ∃ columns,
      (ofIntegers 2 1 4 [6, 1, 0, 4] (some [(3, 0), (2, 3)])).columns = .ok columns := by
    rw [columns_ofIntegers (by decide) (by decide) (by decide) (by decide)]
    simp only [map_eq_ok_iff, mapError_eq_ok_iff]
    exact ⟨_, _, (Topology.columns_eq_ok_iff (by decide)).mpr
      ⟨by unfold Topology.Inside; decide, by decide, rfl, rfl⟩, rfl⟩
  obtain ⟨columns, found⟩ := found
  exact ⟨by decide, columns, found, chains_ofIntegers (by decide) found⟩

end GivenTopology

end Reservoir
