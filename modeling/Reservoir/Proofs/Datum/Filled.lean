import Mathlib.Algebra.Ring.Nat
import Reservoir.Datum.Product
import Reservoir.Proofs.Concatenation
import Reservoir.Proofs.Datum.Nested

/-!
# Blocks hold as many entries as their shape says

A block that is read from a value is filled, and so is the product of two values. What fills a
shape by repetition has as many entries as that shape, so a flat block of doubles stays a flat
block of the same length whatever is written into it.
-/

namespace Reservoir

section Shapes

/-- The entries of two lists that are zipped without a remainder of the first. -/
theorem forall₂_of_all_zip {α β : Type} {p : α × β → Bool} {xs : List α} {ys : List β}
    (enough : xs.length ≤ ys.length) (h : (xs.zip ys).all p = true) :
    List.Forall₂ (fun x y => p (x, y) = true) xs (ys.take xs.length) := by
  induction xs generalizing ys with
  | nil => exact .nil
  | cons x xs ih =>
      cases ys with
      | nil => cases enough
      | cons y ys =>
          rw [List.zip_cons_cons, List.all_cons, Bool.and_eq_true] at h
          exact .cons h.1 (ih (Nat.le_of_succ_le_succ enough) h.2)

theorem volume_ones (k : Nat) (shape : List Nat) :
    volume (List.replicate k 1 ++ shape) = volume shape := by
  induction k with
  | zero => rfl
  | succ k ih =>
      rw [List.replicate_succ, List.cons_append]
      exact (Nat.one_mul _).trans ih

theorem volume_dropOuter (axes : Nat) (shape : List Nat) :
    volume (Block.dropOuter axes shape) = volume shape := by
  induction shape with
  | nil => rfl
  | cons n shape ih =>
      unfold Block.dropOuter
      split
      · next rest same =>
        cases same
        split
        · exact ih.trans (Nat.one_mul _).symm
        · rfl
      · rfl

end Shapes

namespace Block

variable {α : Type}

/-- A block has as many entries as its shape says. -/
def Filled (b : Block α) : Prop := b.entries.length = volume b.shape

theorem filled_flat (xs : List α) : (flat xs).Filled := (Nat.mul_one _).symm

theorem filled_ofShape {shape : List Nat} {xs : List α} (length : xs.length = volume shape) :
    (ofShape shape xs).Filled := by
  unfold ofShape
  split
  · exact filled_flat xs
  · exact length

/-- A shape that can be filled: an axis has the same length in both shapes, or is repeated. -/
theorem forall₂_of_fits {target shape : List Nat} (h : fits target shape = true) :
    List.Forall₂ (fun s t => s = t ∨ s = 1)
      (List.replicate (target.length - shape.length) 1 ++ shape) target := by
  simp only [fits, Bool.and_eq_true, decide_eq_true_eq] at h
  obtain ⟨shorter, aligned⟩ := h
  have inner : List.Forall₂ (fun s t => s = t ∨ s = 1) shape
      (target.drop (target.length - shape.length)) := by
    rw [← List.forall₂_reverse_iff, List.reverse_drop]
    have zipped := forall₂_of_all_zip (by simpa using shorter) aligned
    rw [List.length_reverse] at zipped
    rw [show target.length - (target.length - shape.length) = shape.length by omega]
    exact zipped.imp fun s t same => by simpa using same
  have outer : List.Forall₂ (fun s t => s = t ∨ s = 1)
      (List.replicate (target.length - shape.length) 1)
      (target.take (target.length - shape.length)) := by
    rw [List.forall₂_iff_get]
    refine ⟨by simp, fun i hi _ => .inr ?_⟩
    simp
  simpa only [List.take_append_drop] using List.rel_append outer inner

theorem length_spread {target shape : List Nat} {xs : List α}
    (fit : List.Forall₂ (fun s t => s = t ∨ s = 1) shape target)
    (length : xs.length = volume shape) : (spread target shape xs).length = volume target := by
  induction fit generalizing xs with
  | nil => exact length
  | @cons s t ss ts axis rest ih =>
      have length : xs.length = s * volume ss := length
      rw [spread]
      split
      · next same =>
        have rows : ∀ row ∈ rowsOf s (volume ss) xs,
            (spread ts ss row).length = volume ts :=
          fun row member => ih (length_of_mem_rowsOf length member)
        rw [length_flatMap_of_length rows, length_rowsOf, same]
        rfl
      · next other =>
        have one : s = 1 := axis.resolve_left other
        rw [one, Nat.one_mul] at length
        rw [List.length_flatten, List.map_replicate, ih length, List.sum_replicate_nat]
        rfl

theorem length_of_fill? {target : List Nat} {b : Block α} {xs : List α} (filled : b.Filled)
    (h : fill? target b = some xs) : xs.length = volume target := by
  unfold fill? at h
  split at h
  · next same =>
    cases h
    rw [← same]
    exact filled
  · split at h
    · next fit =>
      cases h
      apply length_spread (forall₂_of_fits fit)
      rw [volume_ones]
      exact filled
    · cases h

/-- A flat block stays flat, and as long as it was, when it is assigned. -/
theorem flat_of_assign {xs : List α} {source b : Block α} (filled : source.Filled)
    (h : (flat xs).assign source = .ok b) : ∃ ys, b = flat ys ∧ ys.length = xs.length := by
  simp only [assign] at h
  split at h
  · next ys found =>
    cases h
    have outer : (ofShape (dropOuter (flat xs).shape.length source.shape)
        source.entries).Filled := by
      apply filled_ofShape
      rw [volume_dropOuter]
      exact filled
    exact ⟨ys, rfl, (length_of_fill? outer found).trans (Nat.mul_one _)⟩
  · cases h

/-- A flat block stays flat, and as long as it was, when one of its entries is set. -/
theorem flat_of_setRow {xs : List α} {i : Int} {row b : Block α} (filled : row.Filled)
    (h : (flat xs).setRow i row = .ok b) : ∃ ys, b = flat ys ∧ ys.length = xs.length := by
  simp only [setRow, shape_flat] at h
  split at h
  · cases h
  · next r place =>
    split at h
    · cases h
    · next entry found =>
      cases h
      have one : entry.length = 1 := length_of_fill? filled found
      have inside : r < xs.length := place?_lt place
      refine ⟨_, rfl, ?_⟩
      simp only [entries_flat, volume, List.foldr_nil, Nat.mul_one, List.length_append,
        List.length_take, List.length_drop, one]
      omega

end Block

namespace Datum

mutual

/-- A nested list has as many entries as its shape says. -/
theorem length_leaves : ∀ {d : Datum} {s : List Nat}, d.shape = .ok s →
    d.leaves.length = volume s
  | .list items, s, h => by
      rw [shape] at h
      obtain ⟨ss, inner, h⟩ := bind_eq_ok_iff.mp h
      obtain ⟨count, length⟩ := length_leavesAll inner
      rw [leaves, length]
      cases ss with
      | nil =>
          cases h
          rfl
      | cons first rest =>
          simp only at h
          split at h
          · next same =>
            cases h
            have all : ∀ t ∈ first :: rest, volume t = volume first := by
              rw [List.all_eq_true] at same
              intro t ht
              rcases List.mem_cons.mp ht with rfl | ht
              · rfl
              · rw [eq_of_beq (same t ht)]
            rw [List.map_congr_left all, List.map_const', List.sum_replicate_nat, count]
            rfl
          · cases h
  | .null, s, h | .bool _, s, h | .int _, s, h | .float _, s, h | .text _, s, h
  | .record _ _, s, h => by
      cases h
      rfl

/-- The items of a list have as many entries as their shapes say. -/
theorem length_leavesAll : ∀ {ds : List Datum} {ss : List (List Nat)}, shapes ds = .ok ss →
    ss.length = ds.length ∧ (leavesAll ds).length = (ss.map volume).sum
  | [], ss, h => by
      cases h
      exact ⟨rfl, rfl⟩
  | d :: ds, ss, h => by
      rw [shapes] at h
      obtain ⟨s, first, h⟩ := bind_eq_ok_iff.mp h
      obtain ⟨rest, later, h⟩ := bind_eq_ok_iff.mp h
      cases h
      obtain ⟨count, length⟩ := length_leavesAll later
      refine ⟨congrArg Nat.succ count, ?_⟩
      rw [leavesAll, List.length_append, length_leaves first, length]
      rfl

end

theorem shape_of_blockShape {d : Datum} {s : List Nat} (h : d.blockShape = .ok s) :
    d.shape = .ok s := by
  obtain ⟨t, shape, h⟩ := bind_eq_ok_iff.mp h
  split at h
  · cases h
    exact shape
  · cases h

/-- A block that is read is filled. -/
theorem filled_of_block {d : Datum} {b : Block Float} (h : d.block = .ok b) : b.Filled := by
  obtain ⟨s, shape, h⟩ := bind_eq_ok_iff.mp h
  obtain ⟨xs, entries, h⟩ := bind_eq_ok_iff.mp h
  cases h
  apply Block.filled_ofShape
  rw [← (mapM_eq_ok_iff.mp entries).length_eq]
  exact length_leaves (shape_of_blockShape shape)

/-- A flat block stays flat, and as long as it was, when a value is written into it. -/
theorem flat_of_writeRow {value : Datum} {xs : List Float} {i : Int} {b : Block Float}
    (h : value.writeRow (.flat xs) i = .ok b) :
    ∃ ys, b = .flat ys ∧ ys.length = xs.length := by
  simp only [writeRow, Block.shape_flat] at h
  split at h
  · cases h
  · obtain ⟨s, _, h⟩ := bind_eq_ok_iff.mp h
    split at h
    · cases h
    · obtain ⟨row, read, h⟩ := bind_eq_ok_iff.mp h
      exact Block.flat_of_setRow (filled_of_block read) h

/-- A product is filled. -/
theorem filled_of_product {value given : Datum} {b : Block Datum}
    (h : value.product given = .ok b) : b.Filled := by
  obtain ⟨inner, innerShape, h⟩ := bind_eq_ok_iff.mp h
  obtain ⟨outer, outerShape, h⟩ := bind_eq_ok_iff.mp h
  obtain ⟨sort, _, h⟩ := bind_eq_ok_iff.mp h
  obtain ⟨xs, left, h⟩ := bind_eq_ok_iff.mp h
  obtain ⟨ys, right, h⟩ := bind_eq_ok_iff.mp h
  have leftLength : xs.length = volume outer :=
    (mapM_eq_ok_iff.mp left).length_eq.symm.trans (length_leaves (shape_of_blockShape outerShape))
  have rightLength : ys.length = volume inner :=
    (mapM_eq_ok_iff.mp right).length_eq.symm.trans (length_leaves (shape_of_blockShape innerShape))
  split at h
  · cases h
  · next shape common =>
    split at h
    · next xs' ys' spreadLeft spreadRight =>
      obtain ⟨zs, times, h⟩ := bind_eq_ok_iff.mp h
      cases h
      apply Block.filled_ofShape
      rw [← (mapM_eq_ok_iff.mp times).length_eq, List.length_zip,
        Block.length_of_fill? (Block.filled_ofShape leftLength) spreadLeft,
        Block.length_of_fill? (Block.filled_ofShape rightLength) spreadRight, Nat.min_self]
    · cases h

end Datum

/-- A block puts as many doubles into a list as the list has entries. -/
theorem Block.length_of_spreadOver {n : Nat} {b : Block Datum} {xs : List Float}
    (filled : b.Filled) (h : b.spreadOver n = .ok xs) : xs.length = n := by
  obtain ⟨list, assigned, h⟩ := bind_eq_ok_iff.mp h
  obtain ⟨ys, rfl, length⟩ := flat_of_assign filled assigned
  rw [← (mapM_eq_ok_iff.mp h).length_eq, entries_flat, length, List.length_replicate]

end Reservoir
