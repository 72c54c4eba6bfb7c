import Mathlib.Algebra.Ring.Nat
import Mathlib.Data.List.Basic
import Reservoir.Proofs.Traverse
import Reservoir.State.Record

/-!
# Records of plain states

In a plain state every array is a list. Its record is the concatenation of the five recorded
lists, and the parts that are read back lie one after the other, without gap or overlap: the
record of a state that a record was read into is that record.
-/

namespace Reservoir

namespace Arrays

/-- All arrays are plain lists. -/
def Plain (a : Arrays (Block Float)) : Prop :=
  ∀ f, a.get f = .flat (a.get f).entries

/-- The arrays of a record are plain lists; those beside it are any. -/
def RecordPlain (a : Arrays (Block Float)) : Prop :=
  ∀ f ∈ Field.recorded, a.get f = .flat (a.get f).entries

/-- Whether an array is a plain list shows in its constructor. -/
instance decidablePlain (a : Arrays (Block Float)) : Decidable a.Plain :=
  have single : ∀ b : Block Float, Decidable (b = .flat b.entries)
    | .flat _ => isTrue rfl
    | .shaped _ _ => isFalse nofun
  have : DecidablePred fun f => a.get f = .flat (a.get f).entries := fun f => single (a.get f)
  decidable_of_iff (∀ f ∈ Field.all, a.get f = .flat (a.get f).entries)
    ⟨fun h f => h f f.mem_all, fun h f _ => h f⟩

/-- The number of values in an array. -/
def lengthOf (a : Arrays (Block Float)) (f : Field) : Nat := (a.get f).entries.length

/-- The recorded values, in the order of some fields. -/
def valuesOf (a : Arrays (Block Float)) (fs : List Field) : List Float :=
  fs.flatMap fun f => (a.get f).entries

variable {a b : Arrays (Block Float)}

theorem Plain.recordPlain (h : a.Plain) : a.RecordPlain := fun f _ => h f

/-- Lists of equal lengths are told apart by their concatenation. -/
theorem eq_of_valuesOf_eq {fs : List Field} (lengths : ∀ f ∈ fs, a.lengthOf f = b.lengthOf f)
    (h : a.valuesOf fs = b.valuesOf fs) : ∀ f ∈ fs, (a.get f).entries = (b.get f).entries := by
  induction fs with
  | nil => exact nofun
  | cons f fs ih =>
      obtain ⟨first, rest⟩ := List.append_inj h (lengths f List.mem_cons_self)
      intro g hg
      rcases List.mem_cons.mp hg with rfl | hg
      · exact first
      · exact ih (fun d hd => lengths d (List.mem_cons_of_mem f hd)) rest g hg

end Arrays

namespace Offsets

/-- The parts of a record for fields of given lengths, one after the other. -/
def partsFrom (length : Field → Nat) : Nat → List Field → List (Field × Int × Int)
  | _, [] => []
  | start, f :: fs =>
    (f, (start : Int), ((start + length f : Nat) : Int)) :: partsFrom length (start + length f) fs

theorem getElem?_partsFrom (length : Field → Nat) (start : Nat) (fs : List Field) (n : Nat) :
    (partsFrom length start fs)[n]? = fs[n]?.map fun f =>
      (f, ((start + ((fs.take n).map length).sum : Nat) : Int),
        ((start + ((fs.take n).map length).sum + length f : Nat) : Int)) := by
  induction fs generalizing start n with
  | nil => rfl
  | cons f fs ih =>
      cases n with
      | zero => rfl
      | succ n => simp [partsFrom, ih, Nat.add_assoc]

/-- A field begins where its part of a record does. -/
theorem start?_of_mem_parts {o : Offsets} {f : Field} {a b : Int} (h : (f, a, b) ∈ o.parts) :
    o.start? f = some a := by
  simp only [parts, List.mem_cons, Prod.mk.injEq, List.not_mem_nil, or_false] at h
  rcases h with ⟨rfl, rfl, _⟩ | ⟨rfl, rfl, _⟩ | ⟨rfl, rfl, _⟩ | ⟨rfl, rfl, _⟩ | ⟨rfl, rfl, _⟩
  all_goals rfl

end Offsets

theorem slice_natCast (xs : List Float) (start n : Nat) :
    slice xs start ((start + n : Nat) : Int) = (xs.drop start).take n := by
  have size : (((start + n : Nat) : Int) - (start : Int)).toNat = n := by omega
  rw [slice, size, Int.toNat_natCast]

namespace Arrays

/-- Writing parts that lie one after the other into plain lists: the arrays keep their lengths, and
hold what lies there in the record. The induction is on the fields that are still to be written. -/
theorem writeParts_partsFrom {length : Field → Nat} {record : List Float} (fs : List Field)
    (distinct : fs.Nodup) (start : Nat) {a : Arrays (Block Float)}
    (plain : ∀ f ∈ fs, a.get f = .flat (a.get f).entries)
    (lengths : ∀ f ∈ fs, a.lengthOf f = length f)
    (enough : start + (fs.map length).sum ≤ record.length) :
    ∃ b, a.writeParts record (Offsets.partsFrom length start fs) = (b, .ok ()) ∧
      (∀ f ∈ fs, b.get f = .flat (b.get f).entries) ∧
      (∀ f ∉ fs, b.get f = a.get f) ∧ (∀ f ∈ fs, b.lengthOf f = length f) ∧
      b.valuesOf fs = (record.drop start).take (fs.map length).sum := by
  induction fs generalizing a start with
  | nil => exact ⟨a, rfl, nofun, fun _ _ => rfl, nofun, rfl⟩
  | cons f fs ih =>
      obtain ⟨fresh, distinct⟩ := List.nodup_cons.mp distinct
      rw [List.map_cons, List.sum_cons] at enough ⊢
      have part : ((record.drop start).take (length f)).length = length f := by
        rw [List.length_take, List.length_drop]
        omega
      have written : (a.get f).assign (.flat ((record.drop start).take (length f))) =
          .ok (.flat ((record.drop start).take (length f))) := by
        rw [plain f List.mem_cons_self]
        exact Block.assign_flat (part.trans (lengths f List.mem_cons_self).symm)
      -- No field is written twice, so the later ones are still what they were.
      have others : ∀ g ∈ fs,
          (a.set f (.flat ((record.drop start).take (length f)))).get g = a.get g := by
        intro g hg
        exact get_set_of_ne a _ fun same => fresh (same ▸ hg)
      have plain' : ∀ g ∈ fs, (a.set f (.flat ((record.drop start).take (length f)))).get g =
          .flat ((a.set f (.flat ((record.drop start).take (length f)))).get g).entries := by
        intro g hg
        rw [others g hg]
        exact plain g (List.mem_cons_of_mem f hg)
      have lengths' : ∀ g ∈ fs,
          (a.set f (.flat ((record.drop start).take (length f)))).lengthOf g = length g := by
        intro g hg
        rw [lengthOf, others g hg]
        exact lengths g (List.mem_cons_of_mem f hg)
      obtain ⟨b, rest, plainB, kept, lengthsB, values⟩ :=
        ih distinct (start + length f) plain' lengths' (by omega)
      have first : b.get f = .flat ((record.drop start).take (length f)) := by
        rw [kept f fresh, get_set_self]
      refine ⟨b, ?_, ?_, ?_, ?_, ?_⟩
      · rw [Offsets.partsFrom, writeParts, slice_natCast, written]
        exact rest
      · intro g hg
        rcases List.mem_cons.mp hg with rfl | hg
        · rw [first]
          rfl
        · exact plainB g hg
      · intro g hg
        rw [List.mem_cons, not_or] at hg
        rw [kept g hg.2, get_set_of_ne a _ hg.1]
      · intro g hg
        rcases List.mem_cons.mp hg with rfl | hg
        · rw [lengthOf, first]
          exact part
        · exact lengthsB g hg
      · rw [valuesOf] at values ⊢
        rw [List.flatMap_cons, first, values, List.take_add, List.drop_drop]
        rfl

end Arrays

namespace WellState

variable {s : WellState}

/-- The number of values in the record of a state. -/
def recordLength (s : WellState) : Nat := (Field.recorded.map s.toArrays.lengthOf).sum

theorem nodup_recorded : Field.recorded.Nodup := by decide

theorem length?_of_flat {f : Field} (flat : s.toArrays.get f = .flat (s.toArrays.get f).entries) :
    (s.toArrays.get f).length? = .ok (s.toArrays.lengthOf f) := by
  rw [flat]
  rfl

theorem length?_of_plain (plain : s.Plain) (f : Field) :
    (s.toArrays.get f).length? = .ok (s.toArrays.lengthOf f) :=
  length?_of_flat (plain f)

/-- The offsets of a state cut a record into the parts of its fields. -/
theorem offsets_of_recordPlain (plain : s.RecordPlain) :
    ∃ o, s.offsets = .ok o ∧ o.size = s.recordLength ∧
      o.parts = Offsets.partsFrom s.toArrays.lengthOf 0 Field.recorded := by
  have sizes : (Field.recorded.mapM fun f => (s.toArrays.get f).length?) =
      .ok (Field.recorded.map s.toArrays.lengthOf) :=
    mapM_eq_ok_map fun f recorded => length?_of_flat (plain f recorded)
  rw [offsets, sizes]
  simp only [Field.recorded, List.map_cons, List.map_nil, Except.mapError, bind, Except.bind,
    Offsets.ofList, Offsets.ofSizes]
  rw [if_neg (by simp)]
  refine ⟨_, rfl, ?_, ?_⟩
  · simp [recordLength, Field.recorded]
    omega
  · simp [Offsets.parts, Offsets.partsFrom]

theorem offsets_of_plain (plain : s.Plain) :
    ∃ o, s.offsets = .ok o ∧ o.size = s.recordLength ∧
      o.parts = Offsets.partsFrom s.toArrays.lengthOf 0 Field.recorded :=
  offsets_of_recordPlain plain.recordPlain

theorem pack_of_recordPlain (plain : s.RecordPlain) :
    s.pack = .ok (.flat (s.toArrays.valuesOf Field.recorded)) := by
  have blocks : Field.recorded.map s.toArrays.get =
      (Field.recorded.map fun f => (s.toArrays.get f).entries).map .flat := by
    rw [List.map_map]
    exact List.map_congr_left fun f recorded => plain f recorded
  rw [pack, blocks]
  exact Block.concat_flat _ _

theorem pack_of_plain (plain : s.Plain) :
    s.pack = .ok (.flat (s.toArrays.valuesOf Field.recorded)) :=
  pack_of_recordPlain plain.recordPlain

/-- Offsets depend on the recorded arrays only. -/
theorem offsets_congr {t : WellState}
    (h : ∀ f ∈ Field.recorded, t.toArrays.get f = s.toArrays.get f) : t.offsets = s.offsets := by
  have sizes : (Field.recorded.mapM fun f => (t.toArrays.get f).length?) =
      Field.recorded.mapM fun f => (s.toArrays.get f).length? :=
    mapM_congr fun f recorded => congrArg Block.length? (h f recorded)
  rw [offsets, offsets, sizes]

/-- Records depend on the recorded arrays only. -/
theorem pack_congr {t : WellState} (h : ∀ f ∈ Field.recorded, t.toArrays.get f = s.toArrays.get f) :
    t.pack = s.pack := by
  rw [pack, pack, List.map_congr_left h]

/-- A state that a record was read into: all arrays keep their lengths, and what is not
recorded is as it was. -/
structure Restored (s t : WellState) (record : List Float) : Prop where
  settings : t.settings = s.settings
  phases : t.phases = s.phases
  thp : t.thp = s.thp
  plain : t.Plain
  length : ∀ f, t.toArrays.lengthOf f = s.toArrays.lengthOf f
  pack : t.pack = .ok (.flat record)

/-- A record of the right length is read into recorded arrays that are plain lists. Only these
are written. -/
theorem unpack_of_recordPlain (plain : s.RecordPlain) {record : List Float}
    (length : record.length = s.recordLength) :
    ∃ t, s.unpack record = .ok (t, .ok ()) ∧ t.settings = s.settings ∧ t.phases = s.phases ∧
      t.RecordPlain ∧ (∀ f ∉ Field.recorded, t.toArrays.get f = s.toArrays.get f) ∧
      (∀ f ∈ Field.recorded, t.toArrays.lengthOf f = s.toArrays.lengthOf f) ∧
      t.toArrays.valuesOf Field.recorded = record := by
  obtain ⟨o, offsets, size, parts⟩ := offsets_of_recordPlain plain
  obtain ⟨arrays, written, plainB, kept, lengths, values⟩ :=
    Arrays.writeParts_partsFrom Field.recorded nodup_recorded 0 plain (fun _ _ => rfl)
      (show 0 + s.recordLength ≤ record.length by omega)
  refine ⟨{ s with toArrays := arrays }, ?_, rfl, rfl, plainB, kept, lengths, ?_⟩
  · rw [unpack, offsets]
    simp only [bind, Except.bind, size, length, parts, if_true]
    rw [written]
    rfl
  · rw [values, List.drop_zero]
    exact List.take_of_length_le (Nat.le_of_eq length)

/-- A record of the right length is read. -/
theorem unpack_of_length (plain : s.Plain) {record : List Float}
    (length : record.length = s.recordLength) :
    ∃ t, s.unpack record = .ok (t, .ok ()) ∧ s.Restored t record := by
  obtain ⟨t, unpacked, settings, phases, recordPlain, kept, lengths, values⟩ :=
    unpack_of_recordPlain plain.recordPlain length
  refine ⟨t, unpacked, settings, phases, kept .thp (by decide), ?_, ?_, ?_⟩
  · intro f
    by_cases recorded : f ∈ Field.recorded
    · exact recordPlain f recorded
    · rw [kept f recorded]
      exact plain f
  · intro f
    by_cases recorded : f ∈ Field.recorded
    · exact lengths f recorded
    · exact congrArg (fun b => b.entries.length) (kept f recorded)
  · rw [pack_of_recordPlain recordPlain, values]

/-- A record of another length is refused. -/
theorem unpack_of_length_ne (plain : s.RecordPlain) {record : List Float}
    (length : record.length ≠ s.recordLength) :
    s.unpack record = .error (.record (.size record.length s.recordLength)) := by
  obtain ⟨o, offsets, size, _⟩ := offsets_of_recordPlain plain
  rw [unpack, offsets]
  have other : ¬(record.length : Int) = (s.recordLength : Int) := by omega
  simp only [bind, Except.bind, size, other, if_false, Int.toNat_natCast]
  rfl

/-- A state can be shown if all its arrays have a length. -/
theorem exists_view_of_length? (lengths : ∀ f, ∃ n, (s.toArrays.get f).length? = .ok n) :
    ∃ v, s.view = .ok v := by
  obtain ⟨wells, size⟩ := lengths .bhp
  have shown : (Field.all.forM fun f => do let _ ← (s.toArrays.get f).length?) =
      (Except.ok () : Except InputFault Unit) := by
    simp only [Field.all]
    choose n counted using lengths
    simp only [counted, bind, Except.bind]
    rfl
  rw [view, show s.size? = .ok wells from size]
  simp only [bind, Except.bind] at shown ⊢
  rw [shown]
  exact ⟨_, rfl⟩

/-- A plain state can be shown. -/
theorem view_of_plain (plain : s.Plain) :
    s.view = .ok ⟨s.toArrays.lengthOf .bhp, s.phases, s.toArrays⟩ := by
  have size : s.size? = .ok (s.toArrays.lengthOf .bhp) := length?_of_plain plain .bhp
  rw [view, size]
  simp only [Field.all, length?_of_plain plain, bind, Except.bind]
  rfl

end WellState

end Reservoir
