import Reservoir.Fault
import Reservoir.Position

/-!
# Blocks

A block holds entries in rectangular arrangement, in row-major order: most often a plain
list, otherwise with the lengths of any other number of axes. A single entry has no axes, and
no length.

A block of one shape fills another shape by repetition along the axes where it has length
one. That is how a block is written into a row of another one, or into all of it.
-/

namespace Reservoir

/-- The number of entries of a shape. -/
def volume (shape : List Nat) : Nat :=
  shape.foldr (· * ·) 1

/-- The rows of a table of `rows` rows of `width` entries. -/
def rowsOf {α : Type} (rows width : Nat) (entries : List α) : List (List α) :=
  (List.range rows).map fun r => (entries.drop (r * width)).take width

/-- Entries in rectangular arrangement. -/
inductive Block (α : Type) where
  | flat (entries : List α)
  | shaped (shape : List Nat) (entries : List α)

namespace Block

variable {α β : Type}

/-- A block of a given shape. -/
def ofShape : List Nat → List α → Block α
  | [_], entries => .flat entries
  | shape, entries => .shaped shape entries

/-- All entries, in row-major order. -/
def entries : Block α → List α
  | .flat xs => xs
  | .shaped _ xs => xs

/-- The lengths of the axes, outermost first. -/
def shape : Block α → List Nat
  | .flat xs => [xs.length]
  | .shaped s _ => s

/-- The same arrangement of other entries. -/
def withEntries (b : Block α) (xs : List β) : Block β :=
  match b with
  | .flat _ => .flat xs
  | .shaped s _ => .shaped s xs

/-- The length of the outermost axis. -/
def length? : Block α → Except InputFault Nat
  | .flat xs => .ok xs.length
  | .shaped [] _ => .error .notList
  | .shaped (n :: _) _ => .ok n

/-- Whether a block is a single entry. -/
def isSingle : Block α → Bool
  | .shaped [] _ => true
  | _ => false

@[simp] theorem entries_flat (xs : List α) : (flat xs).entries = xs := rfl

@[simp] theorem shape_flat (xs : List α) : (flat xs).shape = [xs.length] := rfl

@[simp] theorem withEntries_flat (xs : List α) (ys : List β) :
    (flat xs).withEntries ys = flat ys := rfl

@[simp] theorem length?_flat (xs : List α) : (flat xs).length? = .ok xs.length := rfl

@[simp] theorem isSingle_flat (xs : List α) : (flat xs).isSingle = false := rfl

/-- Entries repeated along the axes where their shape has length one. The two shapes have the
same number of axes and agree on the others. -/
def spread : (target shape : List Nat) → List α → List α
  | t :: ts, s :: ss, xs =>
    if s = t then (rowsOf s (volume ss) xs).flatMap (spread ts ss)
    else (List.replicate t (spread ts ss xs)).flatten
  | _, _, xs => xs

/-- Whether entries of one shape, aligned at the innermost axis, can fill another. -/
def fits (target shape : List Nat) : Bool :=
  decide (shape.length ≤ target.length) &&
    (shape.reverse.zip target.reverse).all fun (s, t) => s == t || s == 1

/-- The entries that fill a shape. -/
def fill? (target : List Nat) (b : Block α) : Option (List α) :=
  if b.shape = target then some b.entries
  else if fits target b.shape then
    let ones := List.replicate (target.length - b.shape.length) 1
    some (spread target (ones ++ b.shape) b.entries)
  else none

/-- Outer axes of length one left out until there are at most `axes`. -/
def dropOuter (axes : Nat) : List Nat → List Nat
  | 1 :: rest => if axes ≤ rest.length then dropOuter axes rest else 1 :: rest
  | shape => shape

/-- All entries of a block replaced by those of another. -/
def assign (b source : Block α) : Except InputFault (Block α) :=
  let outer := ofShape (dropOuter b.shape.length source.shape) source.entries
  match fill? b.shape outer with
  | some xs => .ok (b.withEntries xs)
  | none => .error .unequalLengths

/-- The entries from a place on overwritten in place. -/
def overwrite (b : Block α) (start : Nat) (xs : List α) : Block α :=
  b.withEntries (b.entries.take start ++ xs ++ b.entries.drop (start + xs.length))

/-- One row of a block replaced. A flat block has single entries for rows. -/
def setRow (b : Block α) (index : Int) (row : Block α) : Except InputFault (Block α) :=
  match b.shape with
  | [] => .error .noPosition
  | n :: inner =>
    match place? n index with
    | none => .error .noPosition
    | some r =>
      match fill? inner row with
      | none => .error .unequalLengths
      | some xs =>
        let start := r * volume inner
        .ok (b.withEntries
          (b.entries.take start ++ xs ++ b.entries.drop (start + volume inner)))

/-- Blocks one after the other along the outermost axis; all other axes have to agree. -/
def concat : List (Block α) → Except InputFault (Block α)
  | [] => .ok (.flat [])
  | b :: bs =>
    match b.shape with
    | [] => .error .unequalLengths
    | _ :: inner =>
      if bs.all fun c => !c.isSingle && c.shape.drop 1 == inner then
        let rows := (b :: bs).foldr (fun c n => c.shape.headD 0 + n) 0
        .ok (ofShape (rows :: inner) ((b :: bs).flatMap entries))
      else .error .unequalLengths

theorem concat_flat (xs : List α) (xss : List (List α)) :
    concat ((xs :: xss).map flat) = .ok (.flat (xs :: xss).flatten) := by
  have h : (xss.map flat).all (fun c => !c.isSingle && c.shape.drop 1 == []) = true := by simp
  simp only [List.map_cons, concat, shape_flat, h, if_true, ofShape]
  simp [List.flatMap_map]

theorem overwrite_flat (front back : List α) {old new : List α} {start : Nat}
    (place : start = front.length) (length : new.length = old.length) :
    (flat (front ++ old ++ back)).overwrite start new = flat (front ++ new ++ back) := by
  subst place
  simp [overwrite, length]

theorem dropOuter_of_length_le {axes : Nat} {shape : List Nat} (h : shape.length ≤ axes) :
    dropOuter axes shape = shape := by
  unfold dropOuter
  split
  · next rest =>
    have : ¬axes ≤ rest.length := by simp only [List.length_cons] at h; omega
    simp [this]
  · rfl

theorem assign_flat {xs ys : List α} (h : ys.length = xs.length) :
    (flat xs).assign (flat ys) = .ok (.flat ys) := by
  have hd : dropOuter 1 [xs.length] = [xs.length] := dropOuter_of_length_le (by simp)
  simp [assign, hd, ofShape, fill?, h]

end Block

end Reservoir
