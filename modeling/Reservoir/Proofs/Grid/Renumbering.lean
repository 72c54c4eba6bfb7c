import Mathlib.Data.Int.Interval
import Mathlib.Data.List.FinRange
import Reservoir.Proofs.Grid.ColumnIndex
import Reservoir.Proofs.Grid.GivenColumns
import Reservoir.Proofs.Grid.Refused

/-!
# Grids that are numbered otherwise

The number of a cell and the order of the connections are of no account: when the cells of a grid
are numbered otherwise, and its connections are renumbered and listed in any order, the columns
that are extracted are the same up to the numbers of the cells.

What is accepted is stated of all cells and of all connections, so it is kept; and there is only
one vertical partition of the cells (`Topology.Partition.unique`), so the renumbered partition is
the one that is found.
-/

namespace Reservoir

section Numbers

variable {n : Nat} (s : Equiv.Perm (Fin n))

/-- The new number of a cell. What is no cell keeps its number. -/
def renumber (c : Nat) : Nat :=
  if h : c < n then s ⟨c, h⟩ else c

/-- The new number of a cell in a connection. -/
def renumberEnd (z : Int) : Int :=
  if 0 ≤ z then renumber s z.toNat else z

/-- A connection of cells that have new numbers. -/
def renumberPair (p : Int × Int) : Int × Int :=
  (renumberEnd s p.1, renumberEnd s p.2)

variable {s} {c : Nat} {z : Int}

@[simp] theorem renumber_val (c : Fin n) : renumber s c = s c :=
  dif_pos c.isLt

theorem renumber_lt (h : c < n) : renumber s c < n := by
  rw [renumber, dif_pos h]
  exact (s ⟨c, h⟩).isLt

theorem renumber_of_not_lt (h : ¬c < n) : renumber s c = c :=
  dif_neg h

@[simp] theorem renumber_symm_renumber (c : Nat) : renumber s.symm (renumber s c) = c := by
  by_cases h : c < n
  · have there : renumber s c = s ⟨c, h⟩ := dif_pos h
    rw [there, renumber_val, Equiv.symm_apply_apply]
  · rw [renumber_of_not_lt h, renumber_of_not_lt h]

@[simp] theorem renumberEnd_symm_renumberEnd (z : Int) :
    renumberEnd s.symm (renumberEnd s z) = z := by
  by_cases h : 0 ≤ z
  · simp [renumberEnd, h]
  · simp [renumberEnd, h]

theorem renumberEnd_injective : Function.Injective (renumberEnd s) :=
  Function.LeftInverse.injective renumberEnd_symm_renumberEnd

@[simp] theorem renumberPair_symm_renumberPair (p : Int × Int) :
    renumberPair s.symm (renumberPair s p) = p := by
  simp [renumberPair]

theorem toNat_renumberEnd (h : 0 ≤ z) : (renumberEnd s z).toNat = renumber s z.toNat := by
  simp [renumberEnd, h]

theorem renumberEnd_inside (h : 0 ≤ z ∧ z < n) : 0 ≤ renumberEnd s z ∧ renumberEnd s z < n := by
  have less : renumber s z.toNat < n := renumber_lt (by omega)
  rw [renumberEnd, if_pos h.1]
  omega

/-- Ends that are distinct stay distinct. -/
theorem nodup_ends {side : Int × Int → Int} {pairs pairs' : List (Int × Int)}
    (perm : pairs'.Perm (pairs.map (renumberPair s)))
    (same : ∀ p, side (renumberPair s p) = renumberEnd s (side p))
    (distinct : (pairs.map side).Nodup) : (pairs'.map side).Nodup := by
  have ends : (pairs'.map side).Perm ((pairs.map side).map (renumberEnd s)) := by
    have mapped := perm.map side
    have through : side ∘ renumberPair s = renumberEnd s ∘ side := funext same
    rwa [List.map_map, through, ← List.map_map] at mapped
  exact ends.nodup_iff.mpr (distinct.map renumberEnd_injective)

/-- New numbers have 64 bits as long as there are no more cells than such numbers. -/
theorem inRange_renumberEnd (fits : n ≤ 2 ^ 63) (h : Datum.InRange z) :
    Datum.InRange (renumberEnd s z) := by
  by_cases inside : 0 ≤ z ∧ z < n
  · have renumbered := renumberEnd_inside (s := s) inside
    rw [Datum.InRange, Datum.integerRange] at *
    omega
  · have same : renumberEnd s z = z := by
      rw [renumberEnd]
      split
      · rw [renumber_of_not_lt (by omega)]
        omega
      · rfl
    rwa [same]

/-- All numbers are given to the cells again. -/
theorem map_renumber_range_perm : ((List.range n).map (renumber s)).Perm (List.range n) := by
  have cells : (List.range n).map (renumber s) = List.ofFn (Fin.val ∘ s) := by
    rw [← List.map_coe_finRange_eq_range, List.map_map, List.ofFn_eq_map]
    exact List.map_congr_left fun c _ => renumber_val c
  rw [cells, ← List.map_coe_finRange_eq_range, ← List.ofFn_eq_map]
  exact s.ofFn_comp_perm Fin.val

end Numbers

namespace Topology

/-- A topology whose cells are numbered otherwise, with its connections listed in any order. -/
structure Renumbers {n : Nat} (s : Equiv.Perm (Fin n)) (t t' : Topology) : Prop where
  nx : t'.nx = t.nx
  ny : t'.ny = t.ny
  nz : t'.nz = t.nz
  length : t.cells.length = n
  length' : t'.cells.length = n
  cells : ∀ c : Fin n, t'.cells[(s c : Nat)]? = t.cells[(c : Nat)]?
  connections : Option.Rel (fun pairs pairs' => pairs'.Perm (pairs.map (renumberPair s)))
    t.connections t'.connections

namespace Renumbers

variable {n : Nat} {s : Equiv.Perm (Fin n)} {t t' : Topology}

/-- The old numbers are new ones of the renumbered topology. -/
theorem symm (h : Renumbers s t t') : Renumbers s.symm t' t := by
  refine ⟨h.nx.symm, h.ny.symm, h.nz.symm, h.length', h.length, ?_, ?_⟩
  · intro c
    rw [← h.cells, Equiv.apply_symm_apply]
  · have related := h.connections
    generalize t.connections = old, t'.connections = new at related ⊢
    cases related with
    | none => exact .none
    | @some pairs pairs' perm =>
        have back := perm.map (renumberPair s.symm)
        simp only [List.map_map, Function.comp_def, renumberPair_symm_renumberPair,
          List.map_id'] at back
        exact .some back.symm

theorem layer (h : Renumbers s t t') : t'.layer = t.layer := by
  rw [Topology.layer, Topology.layer, h.nx, h.ny]

/-- A cell keeps its position. -/
theorem position (h : Renumbers s t t') {c : Nat} (hc : c < n) :
    t'.position (renumber s c) = t.position c := by
  have same := h.cells ⟨c, hc⟩
  rw [← renumber_val] at same
  rw [Topology.position, Topology.position, List.getD_eq_getElem?_getD,
    List.getD_eq_getElem?_getD, same]

theorem perm_cells (h : Renumbers s t t') : t.cells.Perm t'.cells := by
  have old : t.cells = List.ofFn fun c : Fin n => t.position c := by
    refine List.ext_getElem (by simp [h.length]) fun c inside _ => ?_
    simp [Topology.position, inside]
  have new : t'.cells = List.ofFn fun c : Fin n => t'.position c := by
    refine List.ext_getElem (by simp [h.length']) fun c inside _ => ?_
    simp [Topology.position, inside]
  have through : (fun c : Fin n => t.position c) = (fun c : Fin n => t'.position c) ∘ s := by
    funext c
    rw [Function.comp_apply, ← renumber_val, h.position c.isLt]
  rw [old, new, through]
  exact s.ofFn_comp_perm _

theorem inside (h : Renumbers s t t') (inside : t.Inside) : t'.Inside := by
  intro g hg
  rw [h.nx, h.ny, h.nz]
  exact inside g (h.perm_cells.mem_iff.mpr hg)

theorem nodup (h : Renumbers s t t') (distinct : t.cells.Nodup) : t'.cells.Nodup :=
  h.perm_cells.nodup_iff.mp distinct

/-- What is computed of the position of a cell is kept. -/
theorem coordinate (h : Renumbers s t t') {f f' : Int → Int} (same : ∀ g, f' g = f g) {z : Int}
    (inside : 0 ≤ z ∧ z < n) :
    Connections.coordinate (t'.cells.map f') (renumberEnd s z) =
      Connections.coordinate (t.cells.map f) z := by
  have cell := h.cells ⟨z.toNat, by omega⟩
  rw [← renumber_val] at cell
  rw [Connections.coordinate, Connections.coordinate, List.getD_eq_getElem?_getD,
    List.getD_eq_getElem?_getD, List.getElem?_map, List.getElem?_map, toNat_renumberEnd inside.1,
    cell, funext same]

/-- Connections in single file are renumbered to such ones. -/
theorem inSingleFile (h : Renumbers s t t') {pairs pairs' : List (Int × Int)}
    (perm : pairs'.Perm (pairs.map (renumberPair s)))
    (single : Connections.InSingleFile pairs (t.cells.map t.coordI) (t.cells.map t.coordJ)
      (t.cells.map t.coordK)) :
    Connections.InSingleFile pairs' (t'.cells.map t'.coordI) (t'.cells.map t'.coordJ)
      (t'.cells.map t'.coordK) := by
  have joined : ∀ p ∈ pairs, Connections.Joins n p := by
    have inside := single.inside
    rwa [List.length_map, h.length] at inside
  have renumbered : ∀ p' ∈ pairs', ∃ p ∈ pairs, renumberPair s p = p' := fun p' hp' =>
    List.mem_map.mp (perm.mem_iff.mp hp')
  refine ⟨?_, ?_, ?_, ?_⟩
  · intro p' hp'
    obtain ⟨p, hp, rfl⟩ := renumbered p' hp'
    rw [List.length_map, h.length']
    exact ⟨renumberEnd_inside (joined p hp).1, renumberEnd_inside (joined p hp).2⟩
  · exact nodup_ends perm (fun _ => rfl) single.outgoing
  · exact nodup_ends perm (fun _ => rfl) single.incoming
  · intro p' hp'
    obtain ⟨p, hp, rfl⟩ := renumbered p' hp'
    obtain ⟨upper, lower⟩ := joined p hp
    have sameI : ∀ g, t'.coordI g = t.coordI g := fun g => by rw [coordI, coordI, h.nx]
    have sameJ : ∀ g, t'.coordJ g = t.coordJ g := fun g => by
      rw [coordJ, coordJ, h.nx, h.layer]
    have sameK : ∀ g, t'.coordK g = t.coordK g := fun g => by rw [coordK, coordK, h.layer]
    simp only [Connections.GoesDown, renumberPair, h.coordinate sameI upper,
      h.coordinate sameI lower, h.coordinate sameJ upper, h.coordinate sameJ lower,
      h.coordinate sameK upper, h.coordinate sameK lower]
    exact single.down p hp

theorem connected (h : Renumbers s t t') (connected : t.checkConnections = .ok ()) :
    t'.checkConnections = .ok () := by
  have related := h.connections
  rw [checkConnections] at *
  generalize t.connections = old, t'.connections = new at related connected ⊢
  cases related with
  | none => rfl
  | @some pairs pairs' perm =>
      change checkSingleFile pairs _ _ _ = _ at connected
      change checkSingleFile pairs' _ _ _ = _
      rw [Connections.checkSingleFile_eq_ok_iff_inSingleFile (by simp) (by simp)] at *
      rcases connected with rfl | single
      · exact .inl (List.perm_nil.mp perm)
      · exact .inr (h.inSingleFile perm single)

/-- The renumbered partition of the cells is a partition of the renumbered cells. -/
theorem partition (h : Renumbers s t t') {columns : List (List Nat)} (p : t.Partition columns) :
    t'.Partition (columns.map fun column => column.map (renumber s)) := by
  have inside : ∀ column ∈ columns, ∀ c ∈ column, c < n := by
    intro column hcolumn c hc
    rw [← h.length]
    exact p.lt_length hcolumn hc
  refine ⟨?_, ?_, ?_, ?_, ?_⟩
  · rw [← List.map_flatten, h.length']
    have cells := p.perm.map (renumber s)
    rw [h.length] at cells
    exact cells.trans map_renumber_range_perm
  · simp only [List.forall_mem_map, ne_eq, List.map_eq_nil_iff]
    exact p.nonempty
  · simp only [List.forall_mem_map]
    intro column hcolumn a ha b hb
    rw [h.position (inside column hcolumn a ha), h.position (inside column hcolumn b hb), h.layer]
    exact p.aligned column hcolumn a ha b hb
  · simp only [List.forall_mem_map, List.pairwise_map]
    intro column hcolumn
    refine (p.downward column hcolumn).imp_of_mem ?_
    intro a b ha hb down
    rwa [h.position (inside column hcolumn a ha), h.position (inside column hcolumn b hb), h.layer]
  · rw [List.pairwise_map]
    refine p.ascending.imp_of_mem ?_
    intro c d hc hd apart
    simp only [List.forall_mem_map]
    intro a ha b hb
    rw [h.position (inside c hc a ha), h.position (inside d hd b hb), h.layer]
    exact apart a ha b hb

/-- Columns that are extracted are extracted with the new numbers from the renumbered topology. -/
theorem columns (h : Renumbers s t t') {columns : List (List Nat)}
    (found : t.columns = .ok columns) :
    t'.columns = .ok (columns.map fun column => column.map (renumber s)) := by
  have p := h.partition (partition_of_columns found)
  by_cases none : t.cells = []
  · have none' : t'.cells = [] := by
      have same := h.perm_cells
      rw [none] at same
      exact same.nil_eq.symm
    rw [columns_of_nil none] at found
    cases found
    exact columns_of_nil none'
  · have none' : t'.cells ≠ [] := by
      intro nil
      have same := h.perm_cells
      rw [nil] at same
      exact none same.eq_nil
    obtain ⟨inside, distinct, connected, _⟩ := (columns_eq_ok_iff none).mp found
    -- How the cells are sorted does not matter: there is one partition, and this is one.
    have found' : t'.columns = .ok (cut t'.sortedCells) := (columns_eq_ok_iff none').mpr
      ⟨h.inside inside, h.nodup distinct, h.connected connected, rfl⟩
    rw [found', (partition_of_columns found').unique p]

/-- A cell keeps its column. -/
theorem exists_number (h : Renumbers s t t') {columns : List (List Nat)}
    (p : t.Partition columns) (c : Fin n) :
    ∃ m, (numberOfColumn columns)[(c : Nat)]? = some m ∧
      (numberOfColumn (columns.map fun column => column.map (renumber s)))[(s c : Nat)]? =
        some m := by
  have inside : (c : Nat) < t.cells.length := h.length.symm ▸ c.isLt
  obtain ⟨column, hcolumn, hc⟩ := p.exists_column inside
  obtain ⟨m, at_m⟩ := List.mem_iff_getElem?.mp hcolumn
  refine ⟨m, p.getElem?_numberOfColumn_iff.mpr ⟨m, column, at_m, hc, rfl⟩,
    (h.partition p).getElem?_numberOfColumn_iff.mpr ⟨m, column.map (renumber s), ?_, ?_, rfl⟩⟩
  · rw [List.getElem?_map, at_m]
    rfl
  · rw [← renumber_val]
    exact List.mem_map_of_mem hc

end Renumbers

end Topology

/-- What is found of a grid, with new numbers for the cells: they have taken the places of the
old ones in the columns, and each cell is in the column that it was in. -/
structure Extraction.Renumbers {n : Nat} (s : Equiv.Perm (Fin n)) (e e' : Extraction) : Prop where
  columns : ∃ columns : List (List Nat), e.columns = columns.map .flat ∧
    e'.columns = (columns.map fun column => column.map (renumber s)).map .flat
  index : ∀ c : Fin n, ∃ m, e.index[(c : Nat)]? = some m ∧ e'.index[(s c : Nat)]? = some m

namespace GivenTopology

/-- A topology as it is given by its integers. -/
def ofTopology (t : Topology) : GivenTopology :=
  ofIntegers t.nx t.ny t.nz t.cells t.connections

/-- All integers of a topology that are computed with have 64 bits. -/
structure Fits (t : Topology) : Prop where
  first : Datum.InRange t.nx
  layer : Datum.InRange t.layer
  positions : ∀ g ∈ t.cells, Datum.InRange g
  ends : ∀ ps ∈ t.connections, ∀ p ∈ ps, Datum.InRange p.1 ∧ Datum.InRange p.2

/-- Either both extractions succeed, with results that differ in the numbers of the cells, or
neither does. -/
structure FoundAlike {n : Nat} (s : Equiv.Perm (Fin n)) (found found' : Except Fault Extraction) :
    Prop where
  of_ok : ∀ e, found = .ok e → ∃ e', found' = .ok e' ∧ e.Renumbers s e'
  ok_of : ∀ e', found' = .ok e' → ∃ e, found = .ok e

/-- A refusal is a fault of the grid. -/
def RefusedAsGrid (found : Except Fault Extraction) : Prop :=
  ∀ e, found = .error e → e.kind = .grid

variable {n : Nat} {s : Equiv.Perm (Fin n)} {t t' : Topology}

theorem extraction_of_fits (h : Fits t) :
    (ofTopology t).extraction = (t.columns.mapError .grid).map fun columns =>
      { columns := columns.map .flat, index := Topology.numberOfColumn columns } :=
  extraction_ofIntegers h.first h.layer h.positions h.ends

theorem extraction_of_nil (none : t.cells = []) (first : Datum.InRange t.nx)
    (layer : Datum.InRange t.layer) : (ofTopology t).extraction = .ok ⟨[], []⟩ := by
  obtain ⟨nx, ny, nz, cells, connections⟩ := t
  obtain rfl : cells = [] := none
  rw [extraction_eq, ofTopology, read_of_nil, ← extraction_eq,
    extraction_ofIntegers first layer (by simp) (by simp), Topology.columns_of_nil rfl]
  rfl

theorem refusedAsGrid_of_fits (h : Fits t) : RefusedAsGrid (ofTopology t).extraction := by
  intro e refused
  rw [extraction_of_fits h] at refused
  cases found : t.columns with
  | ok columns =>
      rw [found] at refused
      cases refused
  | error fault =>
      rw [found] at refused
      cases refused
      exact Topology.kind_of_columns found

/-- There are no more distinct positions than integers of 64 bits that are not negative. -/
theorem length_le_of_nodup (fits : Fits t) (inside : t.Inside) (distinct : t.cells.Nodup) :
    t.cells.length ≤ 2 ^ 63 := by
  have bounded : t.cells.toFinset ⊆ Finset.Ico 0 (2 ^ 63) := by
    intro g hg
    have member := List.mem_toFinset.mp hg
    have lower := (inside g member).1
    have upper := (fits.positions g member).2
    rw [Datum.integerRange] at upper
    rw [Finset.mem_Ico]
    omega
  have few := Finset.card_le_card bounded
  rw [List.toFinset_card_of_nodup distinct, Int.card_Ico] at few
  exact few

theorem Fits.renumber (fits : Fits t) (h : Topology.Renumbers s t t') (few : n ≤ 2 ^ 63) :
    Fits t' := by
  refine ⟨h.nx ▸ fits.first, h.layer ▸ fits.layer, ?_, ?_⟩
  · exact fun g hg => fits.positions g (h.perm_cells.mem_iff.mpr hg)
  · have related := h.connections
    have ends := fits.ends
    generalize t.connections = old, t'.connections = new at related ends ⊢
    cases related with
    | none => simp
    | @some pairs pairs' perm =>
        intro listed hlisted p' hp'
        obtain rfl := Option.mem_some_iff.mp hlisted
        obtain ⟨p, hp, rfl⟩ := List.mem_map.mp (perm.mem_iff.mp hp')
        obtain ⟨upper, lower⟩ := ends pairs (Option.mem_some_self pairs) p hp
        exact ⟨inRange_renumberEnd few upper, inRange_renumberEnd few lower⟩

/-- What is found of a topology is found, with the new numbers, of a renumbered one. Connections
are read only if there are cells, so topologies without cells stand apart. -/
theorem exists_extraction_of_renumbers (h : Topology.Renumbers s t t') {e : Extraction}
    (found : (ofTopology t).extraction = .ok e) :
    ∃ e', (ofTopology t').extraction = .ok e' ∧ e.Renumbers s e' := by
  obtain ⟨_, read, _⟩ := bind_eq_ok_iff.mp (extraction_eq _ ▸ found)
  obtain ⟨first, layer, positions, ends⟩ := inRange_of_read_eq_ok read
  by_cases none : t.cells = []
  · have none' : t'.cells = [] := List.perm_nil.mp (none ▸ h.perm_cells.symm)
    rw [extraction_of_nil none first layer] at found
    cases found
    refine ⟨_, extraction_of_nil none' (h.nx ▸ first) (h.layer ▸ layer), ⟨[], rfl, rfl⟩, ?_⟩
    obtain rfl : 0 = n := by simpa [none] using h.length
    exact nofun
  · have fits : Fits t := ⟨first, layer, positions, ends none⟩
    rw [extraction_of_fits fits] at found
    obtain ⟨columns, extracted, rfl⟩ := map_eq_ok_iff.mp found
    have extracted := mapError_eq_ok_iff.mp extracted
    obtain ⟨inside, distinct, _⟩ := (Topology.columns_eq_ok_iff none).mp extracted
    have few : n ≤ 2 ^ 63 := h.length ▸ length_le_of_nodup fits inside distinct
    have found' := extraction_of_fits (fits.renumber h few)
    rw [h.columns extracted] at found'
    exact ⟨_, found', ⟨columns, rfl, rfl⟩,
      h.exists_number (Topology.partition_of_columns extracted)⟩

/-- Neither the numbers of the cells nor the order of the connections matter to the columns of a
topology, and where the integers of both topologies have 64 bits, what is refused of either is
refused as a fault of the grid. -/
theorem foundAlike_of_renumbers (h : Topology.Renumbers s t t') :
    FoundAlike s (ofTopology t).extraction (ofTopology t').extraction ∧
      (Fits t → Fits t' → RefusedAsGrid (ofTopology t).extraction ∧
        RefusedAsGrid (ofTopology t').extraction) := by
  refine ⟨⟨fun e found => exists_extraction_of_renumbers h found, ?_⟩, ?_⟩
  · intro e' found
    obtain ⟨e, found, _⟩ := exists_extraction_of_renumbers h.symm found
    exact ⟨e, found⟩
  · exact fun fits fits' => ⟨refusedAsGrid_of_fits fits, refusedAsGrid_of_fits fits'⟩

/-- Two columns of two cells, whose first and last cell change their numbers, with the connections
in the opposite order. -/
theorem foundAlike_of_renumbers_swap :
    let t : Topology :=
      { nx := 2, ny := 1, nz := 2, cells := [0, 1, 2, 3], connections := some [(0, 2), (1, 3)] }
    let t' : Topology :=
      { nx := 2, ny := 1, nz := 2, cells := [3, 1, 2, 0], connections := some [(1, 0), (3, 2)] }
    Topology.Renumbers (Equiv.swap (0 : Fin 4) 3) t t' ∧ Fits t ∧ Fits t' ∧
      FoundAlike (Equiv.swap (0 : Fin 4) 3) (ofTopology t).extraction (ofTopology t').extraction ∧
      RefusedAsGrid (ofTopology t).extraction ∧ RefusedAsGrid (ofTopology t').extraction := by
  intro t t'
  have renumbers : Topology.Renumbers (Equiv.swap (0 : Fin 4) 3) t t' :=
    ⟨rfl, rfl, rfl, rfl, rfl, by decide, .some (by decide)⟩
  have fits : Fits t := ⟨by decide, by decide, by decide, by decide⟩
  have fits' : Fits t' := ⟨by decide, by decide, by decide, by decide⟩
  obtain ⟨alike, refused⟩ := foundAlike_of_renumbers renumbers
  exact ⟨renumbers, fits, fits', alike, refused fits fits'⟩

/-- A connection to an unknown cell with a number of more than 64 bits is refused for its size,
with any numbers for the cells, and not as a fault of the grid. -/
theorem not_refusedAsGrid_wide :
    let t : Topology := { nx := 1, ny := 1, nz := 2, cells := [0, 1],
                          connections := some [(0, 100000000000000000000)] }
    Topology.Renumbers (Equiv.refl (Fin 2)) t t ∧ ¬RefusedAsGrid (ofTopology t).extraction := by
  intro t
  refine ⟨⟨rfl, rfl, rfl, rfl, rfl, by decide, .some (by decide)⟩, ?_⟩
  intro refused
  have kind := refused (.input .tooLarge) rfl
  cases kind

end GivenTopology

end Reservoir
