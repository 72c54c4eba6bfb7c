import Reservoir.Grid.Given
import Reservoir.Proofs.Datum.Plain
import Reservoir.Proofs.Grid.Numbering

/-!
# Boxes with a mask

A mask tells the active positions of a box. It may be given in any nesting and with any values
in it: what counts are their truth values, of which there have to be as many as positions. A
position is active exactly when it is that of a cell.
-/

namespace Reservoir

/-- A flat list of truth values. -/
def Datum.ofFlags (bs : List Bool) : Datum :=
  .list (bs.map .bool)

theorem Datum.flags_ofFlags (bs : List Bool) : (Datum.ofFlags bs).flags = .ok bs := by
  have atoms : ∀ d ∈ bs.map Datum.bool, d.IsAtom := by
    intro d hd
    obtain ⟨b, _, rfl⟩ := List.mem_map.mp hd
    exact trivial
  rw [flags, ofFlags, blockShape_list_of_isAtom atoms, leaves_list_of_isAtom atoms]
  exact congrArg Except.ok ((List.map_map).trans (List.map_id bs))

namespace Grid

/-- Whether the position with given coordinates is active. -/
def isActive (g : Grid) (i j k : Nat) : Bool := g.active.getD (g.positionAt i j k) false

section Active

variable {g : Grid} {p i j k : Nat}

/-- The positions of cells are those where the mask is true. -/
theorem mem_globalCells_iff : p ∈ g.globalCells ↔ g.active[p]? = some true := by
  have flags : g.active = g.cellNumbers.map (·.isSome) := (map_isSome_numbered 0 g.active).symm
  simp only [List.mem_iff_getElem?, ← getElem?_cellNumbers_iff]
  rw [flags, List.getElem?_map]
  rcases g.cellNumbers[p]? with _ | _ | c <;> simp

/-- The active positions are those of cells. -/
theorem isActive_iff_mem : g.isActive i j k = true ↔ g.positionAt i j k ∈ g.globalCells := by
  rw [mem_globalCells_iff, isActive, List.getD_eq_getElem?_getD]
  rcases g.active[g.positionAt i j k]? with _ | _ | _ <;> simp

theorem isActive_eq_false_iff :
    g.isActive i j k = false ↔ g.positionAt i j k ∉ g.globalCells := by
  rw [← isActive_iff_mem, Bool.not_eq_true]

theorem lt_size_of_mem (h : p ∈ g.globalCells) : p < g.size := by
  obtain ⟨c, hc⟩ := List.mem_iff_getElem?.mp h
  exact lt_size_of_cellNumbers (getElem?_cellNumbers_iff.mpr hc)

end Active

section Read

variable {nx ny nz : Nat}

/-- Positive dimensions and a mask of their size make a grid, however the mask is given. -/
theorem read_of_flags {mask : Datum} {active : List Bool} (hx : 1 ≤ nx) (hy : 1 ≤ ny)
    (hz : 1 ≤ nz) (given : mask.isNull = false) (flags : mask.flags = .ok active)
    (length : active.length = nx * ny * nz) :
    ∃ g, read (.int nx) (.int ny) (.int nz) (some mask) = .ok g ∧
      g.nx = nx ∧ g.ny = ny ∧ g.nz = nz ∧ g.active = active := by
  have large : leastBelowOne (.int nx) (.int ny) (.int nz) = .ok false := by
    have noneBelow : ¬(nx : Int) < 1 ∧ ¬(ny : Int) < 1 ∧ ¬(nz : Int) < 1 := by omega
    simp [leastBelowOne, Datum.belowOne, noneBelow, bind, Except.bind, pure, Except.pure]
  refine ⟨⟨nx, ny, nz, active, hx, hy, hz, length⟩, ?_, rfl, rfl, rfl, rfl⟩
  have made : create nx ny nz (some active) = .ok ⟨nx, ny, nz, active, hx, hy, hz, length⟩ := by
    rw [create, dif_pos ⟨hx, hy, hz⟩]
    exact dif_pos length
  have present : (some mask).filter (!·.isNull) = some mask := by
    rw [Option.filter_some, given]
    rfl
  simp only [read, large, Datum.cutInteger, present, flags, made, bind, Except.bind,
    Except.mapError, pure, Except.pure, Bool.false_eq_true, if_false]

theorem read_ofFlags {mask : List Bool} (hx : 1 ≤ nx) (hy : 1 ≤ ny) (hz : 1 ≤ nz)
    (length : mask.length = nx * ny * nz) :
    ∃ g, read (.int nx) (.int ny) (.int nz) (some (.ofFlags mask)) = .ok g ∧
      g.nx = nx ∧ g.ny = ny ∧ g.nz = nz ∧ g.active = mask :=
  read_of_flags hx hy hz rfl (Datum.flags_ofFlags mask) length

end Read

end Grid

end Reservoir
