import Reservoir.Grid.HeightMap
import Reservoir.Proofs.Grid.BoxColumns
import Reservoir.Proofs.Grid.Heights
import Reservoir.Proofs.Number.Exact

/-!
# Maps of extracted columns

A map of extracted columns shows the height at every place. It is drawn column by column, and
what has been drawn so far is the picture of the heights in these columns: a point that is set
changes the picture at one place, as a further column changes the heights.

The strongest colour is that of the number of layers, read as a double. A map is drawn unless it
has too many points or this number is beyond all doubles.
-/

namespace Reservoir

namespace HeightMap

/-- An image that shows a number for every place. -/
def picture (nx ny : Nat) (height : Nat → Nat) : List (List Nat) :=
  (List.range ny).map fun j => (List.range nx).map fun i => height (i + j * nx)

variable {nx ny i j v : Nat} {height : Nat → Nat}

theorem flatten_picture : (picture nx ny height).flatten = (List.range (nx * ny)).map height :=
  Grid.flatten_map_range height ny nx

theorem picture_zero :
    picture nx ny (fun _ => 0) = List.replicate ny (List.replicate nx 0) := by
  simp [picture, List.map_const']

/-- The points of an image show distinct places. -/
theorem point_eq_iff {i' : Nat} (hi : i < nx) (hi' : i' < nx) (j' j : Nat) :
    i' + j' * nx = i + j * nx ↔ i' = i ∧ j' = j := by
  have pos : 0 < nx := by omega
  constructor
  · intro same
    have column := congrArg (· % nx) same
    have row := congrArg (· / nx) same
    simp only [Nat.add_mul_mod_self_right, Nat.mod_eq_of_lt hi, Nat.mod_eq_of_lt hi'] at column
    simp only [Nat.add_mul_div_right _ _ pos, Nat.div_eq_of_lt hi, Nat.div_eq_of_lt hi',
      Nat.zero_add] at row
    exact ⟨column, row⟩
  · rintro ⟨rfl, rfl⟩
    rfl

theorem set_map_range {α : Type} (f : Nat → α) (n i : Nat) (a : α) :
    ((List.range n).map f).set i a = (List.range n).map (Function.update f i a) := by
  refine List.ext_getElem (by simp) fun k _ _ => ?_
  simp [List.getElem_set, Function.update_apply, eq_comm]

theorem modify_map_range {α : Type} (f : Nat → α) (n j : Nat) (h : α → α) :
    ((List.range n).map f).modify j h = (List.range n).map (Function.update f j (h (f j))) := by
  refine List.ext_getElem (by simp) fun k _ _ => ?_
  by_cases here : k = j
  · subst here
    simp
  · simp [here, Ne.symm here]

/-- A point that is set changes what is shown for its place. -/
theorem modify_picture (hi : i < nx) :
    (picture nx ny height).modify j (·.set i v) =
      picture nx ny (Function.update height (i + j * nx) v) := by
  rw [picture, modify_map_range, picture]
  refine List.map_congr_left fun j' _ => ?_
  by_cases row : j' = j
  · subst row
    rw [Function.update_self, set_map_range]
    refine List.map_congr_left fun i' hi' => ?_
    simp only [Function.update_apply, point_eq_iff hi (List.mem_range.mp hi') j' j', and_true]
  · rw [Function.update_of_ne row]
    refine List.map_congr_left fun i' hi' => ?_
    have apart := (point_eq_iff hi (List.mem_range.mp hi') j' j).not.mpr fun same => row same.2
    rw [Function.update_of_ne apart]

theorem setPoint_picture (hi : i < nx) (hj : j < ny) :
    setPoint (picture nx ny height) j i v =
      .ok (picture nx ny (Function.update height (i + j * nx) v)) := by
  have rows : (picture nx ny height).length = ny := by simp [picture]
  have row : (picture nx ny height)[j]? =
      some ((List.range nx).map fun i => height (i + j * nx)) := by
    simp [picture, hj]
  simp only [setPoint, rows, place?_ofNat hj, row, Option.getD_some, List.length_map,
    List.length_range, place?_ofNat hi, modify_picture hi]

end HeightMap

namespace Topology

variable {t : Topology}

/-- What a map needs of a topology whose cells are given in some sort. -/
def mapBase (t : Topology) (sort : NumberSort) : MapBase where
  nx := t.nx
  ny := t.ny
  nz := .int t.nz
  positions := t.cells.map ([·])
  sort := sort

/-- The picture of heights by place. -/
def picture (t : Topology) (height : Nat → Nat) : List (List Nat) :=
  HeightMap.picture t.nx.toNat t.ny.toNat height

/-- The point of the map at which a position is shown. -/
theorem IsBox.exists_point (box : t.IsBox) (g : Int) :
    ∃ i < t.nx.toNat, ∃ j < t.ny.toNat, t.coordI g = (i : Int) ∧ t.coordJ g = (j : Int) ∧
      (g.fmod t.layer).toNat = i + j * t.nx.toNat := by
  have whole := t.place_eq_fmod g
  rw [place] at whole
  have left := Int.fmod_nonneg_of_pos g box.nx_pos
  have right := Int.fmod_lt_of_pos g box.nx_pos
  obtain ⟨lower, upper⟩ := box.fmod_layer g
  have row : 0 ≤ t.coordJ g ∧ t.coordJ g < t.ny :=
    fdiv_bounds box.nx_pos lower (Int.fmod_lt_of_pos g box.layer_pos)
  obtain ⟨j, hj⟩ := Int.eq_ofNat_of_zero_le row.1
  obtain ⟨i, hi⟩ := Int.eq_ofNat_of_zero_le left
  obtain ⟨nx, hnx⟩ := Int.eq_ofNat_of_zero_le box.nx_pos.le
  refine ⟨i, by omega, j, by omega, hi, hj, ?_⟩
  rw [← whole, hj, coordI, hi, hnx, Int.toNat_natCast]
  rfl

theorem setPosition_picture (box : t.IsBox) (sort : NumberSort) (v : Nat) (height : Nat → Nat)
    (g : Int) :
    HeightMap.setPosition (t.mapBase sort) v (t.picture height) g =
      .ok (t.picture (Function.update height (g.fmod t.layer).toNat v)) := by
  obtain ⟨i, hi, j, hj, first, second, place⟩ := box.exists_point g
  change HeightMap.setPoint (t.picture height) (t.coordJ g) (t.coordI g) v = _
  rw [first, second, place]
  exact HeightMap.setPoint_picture hi hj

section Columns

variable {columns done rest : List (List Nat)} {column : List Nat} {sort : NumberSort}
  (box : t.IsBox) (addressed : HeightMap.checkSort sort = .ok ())
include box addressed

/-- A column is drawn at its place. -/
theorem drawColumn_picture {c : Nat} (hc : c < t.cells.length) (v : Nat) (height : Nat → Nat) :
    HeightMap.drawColumn (t.mapBase sort) (t.picture height) { first := [(c : Int)], height := v } =
      .ok (t.picture
        (Function.update height ((t.position c).fmod t.layer).toNat v)) := by
  have known : atPlace? (t.mapBase sort).positions (c : Int) = some [t.position c] := by
    have inside : c < (t.mapBase sort).positions.length := by simpa [mapBase] using hc
    rw [atPlace?, place?_ofNat inside, Option.bind_some, mapBase, List.getElem?_map,
      getElem?_cells hc]
    rfl
  have positions : HeightMap.positionsOf (t.mapBase sort) (c : Int) = .ok [t.position c] := by
    rw [HeightMap.positionsOf, known]
  have first : [(c : Int)].mapM (HeightMap.positionsOf (t.mapBase sort)) =
      .ok [[t.position c]] := by
    rw [List.mapM_cons, positions]
    rfl
  refine bind_eq_ok_iff.mpr ⟨_, first, bind_eq_ok_iff.mpr ⟨(), addressed, ?_⟩⟩
  change [t.position c].foldlM (HeightMap.setPosition (t.mapBase sort) v) (t.picture height) = _
  rw [List.foldlM_cons, setPosition_picture box]
  rfl

/-- What has been drawn is the picture of the heights in the columns so far. -/
theorem foldlM_drawColumn (h : t.Partition (done ++ rest)) :
    (rest.map Block.flat).foldlM
        (fun image column => do
          let c ← MapColumn.ofBlock column
          HeightMap.drawColumn (t.mapBase sort) image c)
        (t.picture (t.heightIn done)) =
      .ok (t.picture (t.heightIn (done ++ rest))) := by
  induction rest generalizing done with
  | nil =>
      rw [List.append_nil]
      rfl
  | cons column rest ih =>
      have member : column ∈ done ++ column :: rest := by simp
      have split : t.Partition ((done ++ [column]) ++ rest) := by simpa using h
      have drawn := ih split
      rw [h.heightIn_append box, List.append_assoc, List.singleton_append] at drawn
      obtain ⟨c, cs, rfl⟩ := List.exists_cons_of_ne_nil (h.nonempty column member)
      have first := drawColumn_picture box addressed (h.lt_length member List.mem_cons_self)
        (cs.length + 1) (t.heightIn done)
      rw [← h.columnPlace_eq member List.mem_cons_self] at first
      rw [List.map_cons, List.foldlM_cons]
      exact bind_eq_ok_iff.mpr ⟨_, first, drawn⟩

end Columns

/-- The height at a point of the map counts the cells with its two coordinates. -/
theorem height_point (box : t.IsBox) {i : Nat} (hi : i < t.nx.toNat) (j : Nat) :
    t.height (i + j * t.nx.toNat) =
      t.cells.countP fun g => t.coordI g = (i : Int) ∧ t.coordJ g = (j : Int) := by
  refine List.countP_congr fun g _ => ?_
  obtain ⟨i', hi', j', _, first, second, place⟩ := box.exists_point g
  have lower := (box.fmod_layer g).1
  have same := HeightMap.point_eq_iff hi hi' j' j
  rw [decide_eq_true_eq, decide_eq_true_eq, first, second, Int.ofNat_inj, Int.ofNat_inj, ← same]
  omega

end Topology

namespace HeightMap

/-- A map shows the columns of a topology: at every point the number of cells with its two
coordinates. The numbers sum up to that of the cells, none exceeds the number of layers, and
there are as many columns as numbers that are not zero. The strongest colour is that of the
number of layers as a double, which is the number itself up to `2 ^ 53`. -/
structure Shows (m : HeightMap) (t : Topology) (columns : List (Block Nat)) : Prop where
  title : m.title = toString columns.length ++ " Columns"
  image : m.image = (List.range t.ny.toNat).map fun j : Nat =>
    (List.range t.nx.toNat).map fun i : Nat =>
      t.cells.countP fun g => t.coordI g = (i : Int) ∧ t.coordJ g = (j : Int)
  sum : m.image.flatten.sum = t.cells.length
  height_le : ∀ h ∈ m.image.flatten, (h : Int) ≤ t.nz
  nonzero : m.image.flatten.countP (· ≠ 0) = columns.length
  weakest : m.limits.1 = 0
  strongest : (Number.ofInt? t.nz).bind Number.integerPart? = some m.limits.2
  strongest_eq : t.nz ≤ 2 ^ 53 → m.limits.2 = t.nz

/-- What is drawn of the columns of a topology: a map that shows them, unless it has too many
points or the number of layers is beyond all doubles. -/
structure Draws (t : Topology) (columns : List (Block Nat)) (drawn : Except Fault HeightMap) :
    Prop where
  wide : sizeLimit ≤ t.nx * t.ny → drawn = .error (.input .excessiveLength)
  tall : t.nx * t.ny < sizeLimit → Number.ofInt? t.nz = none → drawn = .error (.input .tooLarge)
  made : t.nx * t.ny < sizeLimit → ∀ x, Number.ofInt? t.nz = some x → ∃ m, drawn = .ok m
  shows : ∀ m, drawn = .ok m → m.Shows t columns

theorem colorLimits_of_none {nz : Int} (h : Number.ofInt? nz = none) :
    colorLimits (.int nz) = .error .tooLarge := by
  simp only [colorLimits, Datum.scalar, Datum.floatOfInt, h, bind, Except.bind, throw, throwThe,
    MonadExceptOf.throw]

/-- The limits of the colours for a number of layers that is read as a double. -/
theorem exists_colorLimits {n : Nat} {x : Float} (h : Number.ofInt? n = some x) :
    ∃ top : Nat, Number.integerPart? x = some (top : Int) ∧
      colorLimits (.int n) = .ok (0, top) := by
  obtain ⟨top, part⟩ := Number.exists_integerPart?_of_ofInt? h
  refine ⟨top, part, ?_⟩
  simp only [colorLimits, Datum.scalar, Datum.floatOfInt, h, Datum.truncated, part, bind,
    Except.bind, pure, Except.pure]
  simp

/-- Limits that are found are zero and the number of layers as a double. -/
theorem limits_of_colorLimits {n : Nat} {limits : Int × Int}
    (h : colorLimits (.int n) = .ok limits) :
    limits.1 = 0 ∧ (Number.ofInt? n).bind Number.integerPart? = some limits.2 := by
  cases read : Number.ofInt? n with
  | none =>
      rw [colorLimits_of_none read] at h
      cases h
  | some x =>
      obtain ⟨top, part, found⟩ := exists_colorLimits read
      rw [found] at h
      cases h
      exact ⟨rfl, part⟩

end HeightMap

namespace Topology

variable {t : Topology} {columns : List (List Nat)} {sort : NumberSort}

theorem IsBox.not_negative (box : t.IsBox) : ¬(t.nx < 0 ∨ t.ny < 0) := by
  have nx_pos := box.nx_pos
  have ny_pos := box.ny_pos
  omega

/-- The map of a partition that has not too many points. -/
theorem Partition.draw_eq (h : t.Partition columns) (box : t.IsBox)
    (addressed : columns ≠ [] → HeightMap.checkSort sort = .ok ())
    (few : t.nx * t.ny < HeightMap.sizeLimit) :
    HeightMap.draw (t.mapBase sort) MapColumn.ofBlock (columns.map .flat) =
      (HeightMap.colorLimits (.int t.nz)).map fun limits =>
        { title := toString columns.length ++ " Columns"
          image := t.picture t.height
          limits } := by
  have blank : List.replicate t.ny.toNat (List.replicate t.nx.toNat 0) =
      t.picture (t.heightIn []) := HeightMap.picture_zero.symm
  have image : (columns.map Block.flat).foldlM
      (fun image column => do
        let c ← MapColumn.ofBlock column
        HeightMap.drawColumn (t.mapBase sort) image c)
      (t.picture (t.heightIn [])) = .ok (t.picture t.height) := by
    rw [← h.heightIn_eq]
    by_cases none : columns = []
    · rw [none]
      rfl
    · exact foldlM_drawColumn box (addressed none) h
  rw [HeightMap.draw, mapBase, if_neg box.not_negative, if_neg (Int.not_le.mpr few), blank,
    ← mapBase, List.length_map]
  have layers : (t.mapBase sort).nz = .int t.nz := rfl
  dsimp only
  rw [image, layers]
  cases HeightMap.colorLimits (.int t.nz) <;> rfl

/-- A map with too many points is refused. -/
theorem IsBox.draw_of_wide (box : t.IsBox) (columns : List (Block Nat))
    (wide : HeightMap.sizeLimit ≤ t.nx * t.ny) :
    HeightMap.draw (t.mapBase sort) MapColumn.ofBlock columns = .error .excessiveLength := by
  rw [HeightMap.draw, mapBase, if_neg box.not_negative, if_pos wide]

theorem Partition.shows (h : t.Partition columns) (box : t.IsBox) (inside : t.Inside)
    (distinct : t.cells.Nodup) {limits : Int × Int}
    (found : HeightMap.colorLimits (.int t.nz) = .ok limits) :
    HeightMap.Shows
      { title := toString columns.length ++ " Columns", image := t.picture t.height, limits }
      t (columns.map .flat) := by
  obtain ⟨n, layers⟩ := Int.eq_ofNat_of_zero_le box.nz_pos.le
  rw [layers] at found
  obtain ⟨weakest, strongest⟩ := HeightMap.limits_of_colorLimits found
  rw [← layers] at strongest
  have points : (t.picture t.height).flatten = (List.range t.layer.toNat).map t.height := by
    rw [picture, HeightMap.flatten_picture, layer, Int.toNat_mul box.nx_pos.le box.ny_pos.le]
  refine ⟨by rw [List.length_map], ?_, ?_, ?_, ?_, weakest, strongest, ?_⟩
  · refine List.map_congr_left fun j _ => List.map_congr_left fun i hi => ?_
    exact t.height_point box (List.mem_range.mp hi) j
  · rw [points, t.sum_height box]
  · intro n hn
    rw [points] at hn
    obtain ⟨s, _, rfl⟩ := List.mem_map.mp hn
    exact height_le box inside distinct s
  · rw [points, List.countP_map, List.length_map, ← h.length_occupied box,
      List.countP_eq_length_filter]
    rfl
  · intro few
    rw [layers] at few strongest ⊢
    have bits : n ≤ 2 ^ 53 := by omega
    have read : Number.ofInt? (n : Int) = some (Float.ofNat n) :=
      Number.ofInt?_eq_some (Nat.lt_of_le_of_lt bits (by decide))
    rw [read, Option.bind_some, Number.integerPart?_ofNat bits] at strongest
    exact (Option.some.inj strongest).symm

/-- Cells that have columns lie inside the dimensions, at distinct positions. -/
theorem inside_of_columns (found : t.columns = .ok columns) : t.Inside ∧ t.cells.Nodup := by
  by_cases none : t.cells = []
  · simp [Inside, none]
  · obtain ⟨inside, distinct, _⟩ := (columns_eq_ok_iff none).mp found
    exact ⟨inside, distinct⟩

/-- What is drawn of the extracted columns of a box. -/
theorem draws_columns (box : t.IsBox) (found : t.columns = .ok columns)
    (addressed : columns ≠ [] → HeightMap.checkSort sort = .ok ()) :
    HeightMap.Draws t (columns.map .flat)
      ((HeightMap.draw (t.mapBase sort) MapColumn.ofBlock (columns.map .flat)).mapError
        .input) := by
  have h := partition_of_columns found
  obtain ⟨inside, distinct⟩ := inside_of_columns found
  obtain ⟨n, layers⟩ := Int.eq_ofNat_of_zero_le box.nz_pos.le
  constructor
  · intro wide
    rw [box.draw_of_wide _ wide]
    rfl
  · intro few beyond
    rw [h.draw_eq box addressed few, HeightMap.colorLimits_of_none beyond]
    rfl
  · intro few x read
    rw [layers] at read
    obtain ⟨top, _, limits⟩ := HeightMap.exists_colorLimits read
    rw [h.draw_eq box addressed few, layers, limits]
    exact ⟨_, rfl⟩
  · intro m drawn
    have drawn := mapError_eq_ok_iff.mp drawn
    by_cases few : t.nx * t.ny < HeightMap.sizeLimit
    · rw [h.draw_eq box addressed few] at drawn
      obtain ⟨limits, known, rfl⟩ := map_eq_ok_iff.mp drawn
      exact h.shows box inside distinct known
    · rw [box.draw_of_wide _ (Int.not_lt.mp few)] at drawn
      cases drawn

/-- What a map shows does not depend on connections. -/
theorem draws_of_connections {nx ny nz : Int} {cells : List Int}
    {connections : Option (List (Int × Int))} {columns : List (Block Nat)}
    {drawn : Except Fault HeightMap}
    (h : HeightMap.Draws { nx, ny, nz, cells, connections } columns drawn) :
    HeightMap.Draws { nx, ny, nz, cells } columns drawn := by
  refine ⟨h.wide, h.tall, h.made, fun m found => ?_⟩
  have shows := h.shows m found
  exact ⟨shows.title, shows.image, shows.sum, shows.height_le, shows.nonzero, shows.weakest,
    shows.strongest, shows.strongest_eq⟩

end Topology

end Reservoir
