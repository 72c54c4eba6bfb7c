import Mathlib.Algebra.BigOperators.Group.Finset.Piecewise
import Mathlib.Data.Int.Interval
import Mathlib.Logic.Function.Basic
import Reservoir.Proofs.Grid.ColumnRank

/-!
# Heights of columns

The height at a place is the number of cells there, and a place without cells has none. The
heights of all places sum up to the number of cells, no height exceeds the number of layers, and
a height that is not zero is that of a column.

Columns of a partition stand at ascending places, so a column that is added to the ones before it
changes the heights so far at its own place only, where it is the first.
-/

namespace Reservoir

/-- Counted by a key, the members of a list are counted once each. -/
theorem sum_countP_range {α : Type} (key : α → Int) {n : Nat} {xs : List α}
    (inside : ∀ x ∈ xs, 0 ≤ key x ∧ key x < n) :
    ((List.range n).map fun s : Nat => xs.countP fun x => key x = s).sum = xs.length := by
  induction xs with
  | nil => simp
  | cons x xs ih =>
      have first := inside x List.mem_cons_self
      have later := ih fun y member => inside y (List.mem_cons_of_mem x member)
      have once : ((List.range n).map fun s : Nat => if key x = s then 1 else 0).sum = 1 := by
        obtain ⟨k, hk⟩ := Int.eq_ofNat_of_zero_le first.1
        have less : k < n := by omega
        change (∑ s ∈ Finset.range n, if key x = (s : Int) then 1 else 0) = 1
        simp [hk, less]
      simp only [List.countP_cons, decide_eq_true_eq, List.sum_map_add, later, once,
        List.length_cons]

/-- The quotient of a number below a product. -/
theorem fdiv_bounds {a b q : Int} (pos : 0 < b) (lower : 0 ≤ a) (upper : a < b * q) :
    0 ≤ a.fdiv b ∧ a.fdiv b < q := by
  rw [Int.mul_comm] at upper
  rw [Int.fdiv_eq_ediv_of_nonneg a pos.le]
  exact ⟨Int.ediv_nonneg lower pos.le, Int.ediv_lt_of_lt_mul pos upper⟩

namespace Topology

variable {t : Topology} {columns done rest : List (List Nat)} {column : List Nat} {c s : Nat}

/-- Dimensions of a box. -/
structure IsBox (t : Topology) : Prop where
  nx_pos : 0 < t.nx
  ny_pos : 0 < t.ny
  nz_pos : 0 < t.nz

theorem IsBox.layer_pos (box : t.IsBox) : 0 < t.layer :=
  Int.mul_pos box.nx_pos box.ny_pos

/-- The number of cells at a place. -/
def height (t : Topology) (s : Nat) : Nat :=
  t.cells.countP fun g => g.fmod t.layer = (s : Int)

theorem IsBox.fmod_layer (box : t.IsBox) (g : Int) :
    0 ≤ g.fmod t.layer ∧ g.fmod t.layer < t.layer.toNat := by
  have pos := box.layer_pos
  have lower := Int.fmod_nonneg_of_pos g pos
  have upper := Int.fmod_lt_of_pos g pos
  omega

theorem sum_height (box : t.IsBox) :
    ((List.range t.layer.toNat).map t.height).sum = t.cells.length := by
  have counted := sum_countP_range (n := t.layer.toNat) (fun g : Int => g.fmod t.layer)
    fun g (_ : g ∈ t.cells) => box.fmod_layer g
  exact counted

/-- The positions of the cells at a place. -/
def positionsAt (t : Topology) (s : Nat) : List Int :=
  t.cells.filter fun g => g.fmod t.layer = (s : Int)

theorem mem_positionsAt {g : Int} : g ∈ t.positionsAt s ↔ g ∈ t.cells ∧ g.fmod t.layer = s := by
  rw [positionsAt, List.mem_filter, decide_eq_true_eq]

theorem length_positionsAt : (t.positionsAt s).length = t.height s :=
  List.countP_eq_length_filter.symm

/-- Cells of one place stand in distinct layers. -/
theorem height_le (box : t.IsBox) (inside : t.Inside) (distinct : t.cells.Nodup) (s : Nat) :
    (t.height s : Int) ≤ t.nz := by
  have layers : ((t.positionsAt s).map t.coordK).Nodup := by
    refine (distinct.filter _).map_on ?_
    intro g hg g' hg' depth
    refine t.eq_of_place_of_coordK ?_ depth
    rw [place_eq_fmod, place_eq_fmod, (mem_positionsAt.mp hg).2, (mem_positionsAt.mp hg').2]
  have bounded : ((t.positionsAt s).map t.coordK).toFinset ⊆ Finset.Ico 0 t.nz := by
    intro k hk
    obtain ⟨g, hg, rfl⟩ := List.mem_map.mp (List.mem_toFinset.mp hk)
    obtain ⟨lower, upper⟩ := inside g (mem_positionsAt.mp hg).1
    rw [Finset.mem_Ico]
    exact fdiv_bounds box.layer_pos lower upper
  have few := Finset.card_le_card bounded
  rw [List.toFinset_card_of_nodup layers, Int.card_Ico, List.length_map, length_positionsAt] at few
  have nz_pos := box.nz_pos
  omega

/-- The places that have cells. -/
def occupied (t : Topology) : List Nat :=
  (List.range t.layer.toNat).filter fun s => t.height s ≠ 0

theorem mem_occupied (box : t.IsBox) :
    s ∈ t.occupied ↔ (s : Int) ∈ t.cells.map (·.fmod t.layer) := by
  have some : t.height s ≠ 0 ↔ (s : Int) ∈ t.cells.map (·.fmod t.layer) := by
    rw [height, Nat.ne_zero_iff_zero_lt, List.countP_pos_iff, List.mem_map]
    simp
  rw [occupied, List.mem_filter, List.mem_range, decide_eq_true_eq, some]
  constructor
  · exact And.right
  · intro hs
    obtain ⟨g, _, place⟩ := List.mem_map.mp hs
    have below := (box.fmod_layer g).2
    exact ⟨by omega, hs⟩

/-- There are as many columns as places with cells. -/
theorem Partition.length_occupied (h : t.Partition columns) (box : t.IsBox) :
    t.occupied.length = columns.length := by
  have perm : (t.occupied.map Int.ofNat).Perm (columns.map t.columnPlace) := by
    have distinct : (t.occupied.map Int.ofNat).Nodup :=
      (List.nodup_range.filter _).map fun a b same => Int.ofNat_inj.mp same
    refine (List.perm_ext_iff_of_nodup distinct (h.pairwise_columnPlace.imp Int.ne_of_lt)).mpr ?_
    intro z
    rw [h.mem_columnPlace_iff, List.mem_map]
    constructor
    · rintro ⟨s, hs, rfl⟩
      exact (mem_occupied box).mp hs
    · intro hz
      obtain ⟨g, _, rfl⟩ := List.mem_map.mp hz
      obtain ⟨s, hs⟩ := Int.eq_ofNat_of_zero_le (box.fmod_layer g).1
      rw [hs] at hz
      exact ⟨s, (mem_occupied box).mpr hz, hs.symm⟩
  have count := perm.length_eq
  rw [List.length_map, List.length_map] at count
  exact count

/-- The number of cells that given columns have at a place. -/
def heightIn (t : Topology) (columns : List (List Nat)) (s : Nat) : Nat :=
  columns.flatten.countP fun c => (t.position c).fmod t.layer = (s : Int)

theorem Partition.heightIn_eq (h : t.Partition columns) : t.heightIn columns = t.height := by
  funext s
  rw [heightIn, h.perm.countP_eq, height]
  conv_rhs => rw [← t.map_position_range, List.countP_map]
  rfl

/-- A further column has its height at its own place, where the ones before it have none. -/
theorem Partition.heightIn_append (h : t.Partition (done ++ column :: rest)) (box : t.IsBox) :
    t.heightIn (done ++ [column]) =
      Function.update (t.heightIn done) (t.columnPlace column).toNat column.length := by
  have member : column ∈ done ++ column :: rest := by simp
  have first := List.head_mem (h.nonempty column member)
  have inside := box.fmod_layer (t.position (column.head (h.nonempty column member)))
  rw [← h.columnPlace_eq member first] at inside
  obtain ⟨p, place⟩ := Int.eq_ofNat_of_zero_le inside.1
  have own : ∀ c ∈ column, (t.position c).fmod t.layer = p := by
    intro c hc
    rw [← h.columnPlace_eq member hc, place]
  have before : ∀ c ∈ done.flatten, (t.position c).fmod t.layer < p := by
    intro c hc
    obtain ⟨other, earlier, hc⟩ := List.mem_flatten.mp hc
    have apart := (List.pairwise_append.mp h.ascending).2.2 other earlier column List.mem_cons_self
    rw [← own _ first]
    exact apart c hc _ first
  funext s
  rw [place, Int.toNat_natCast, heightIn, List.flatten_append, List.countP_append,
    List.flatten_singleton]
  by_cases here : s = p
  · subst here
    rw [Function.update_self, List.countP_eq_zero.mpr, List.countP_eq_length.mpr, Nat.zero_add]
    · intro c hc
      simpa using own c hc
    · intro c hc
      simpa using Int.ne_of_lt (before c hc)
  · rw [Function.update_of_ne here, (List.countP_eq_zero (l := column)).mpr, Nat.add_zero, heightIn]
    intro c hc
    rw [own c hc]
    simpa using fun same => here (Int.ofNat_inj.mp same).symm

end Topology

end Reservoir
