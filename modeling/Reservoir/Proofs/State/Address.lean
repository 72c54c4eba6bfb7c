import Reservoir.Proofs.State.Layout
import Reservoir.Proofs.Well.Connections

/-!
# Addresses in a record

A record is read by others with nothing but the offsets of its fields. Whatever the lengths of
the recorded arrays are, every position of a record is one entry of one field, counted from
where the field begins.

In a state that is laid out for some wells the quantities of a well have such addresses too:
its rates, row by row, and what belongs to its connections, by their flat positions. No two
quantities share an address.
-/

namespace Reservoir

theorem Field.mem_recorded {f : Field} (h : f ≠ .thp) : f ∈ recorded := by
  cases f with
  | thp => exact absurd rfl h
  | bhp | temperature | wellRates | perfRates | perfPress => decide

namespace WellState

variable {s : WellState} {o : Offsets} {record : List Float}

/-- Position `i` of a record is entry `place.2` of field `place.1`. -/
def RecordPlace (s : WellState) (o : Offsets) (place : Field × Nat) (i : Nat) : Prop :=
  place.2 < s.toArrays.lengthOf place.1 ∧
    ∃ start, o.start? place.1 = some start ∧ start + place.2 = (i : Int)

/-- The addresses of a record: every field begins where the fields before it end, its entries
follow, and every position is the place of one entry. -/
structure Addressed (s : WellState) (o : Offsets) (record : List Float) : Prop where
  size : o.size = record.length
  start : ∀ (n : Nat) (f : Field), Field.recorded[n]? = some f →
    o.start? f = some ((((Field.recorded.take n).map s.toArrays.lengthOf).sum : Nat) : Int)
  entry : ∀ f ∈ Field.recorded, ∀ (n : Nat) (x : Float), (s.toArrays.get f).entries[n]? = some x →
    ∃ i, s.RecordPlace o (f, n) i ∧ record[i]? = some x
  unique : ∀ i < record.length, ∃! place : Field × Nat, s.RecordPlace o place i

section Places

/-- The lengths of the fields before one, as the position of its part. -/
theorem sum_lengthOf_take (s : WellState) (n : Nat) :
    ((Field.recorded.take n).map s.toArrays.lengthOf).sum =
      partStart (fun f => (s.toArrays.get f).entries) Field.recorded n :=
  List.length_flatMap.symm

theorem start?_of_getElem? (plain : s.RecordPlain) (offsets : s.offsets = .ok o) {n : Nat}
    {f : Field} (h : Field.recorded[n]? = some f) :
    o.start? f = some ((((Field.recorded.take n).map s.toArrays.lengthOf).sum : Nat) : Int) := by
  obtain ⟨o', offsets', _, parts⟩ := offsets_of_recordPlain plain
  obtain rfl : o' = o := Except.ok.inj (offsets'.symm.trans offsets)
  have part := Offsets.getElem?_partsFrom s.toArrays.lengthOf 0 Field.recorded n
  rw [← parts, h, Option.map_some, Nat.zero_add] at part
  exact Offsets.start?_of_mem_parts (List.mem_of_getElem? part)

/-- The places of a record are those of the concatenation of its fields. -/
theorem recordPlace_iff (plain : s.RecordPlain) (offsets : s.offsets = .ok o) {f : Field}
    {n i : Nat} :
    s.RecordPlace o (f, n) i ↔ ∃ k, Field.recorded[k]? = some f ∧
      PartAt (fun f => (s.toArrays.get f).entries) Field.recorded (k, n) i := by
  constructor
  · rintro ⟨inside, start, begins, place⟩
    have recorded : f ∈ Field.recorded := by
      apply Field.mem_recorded
      rintro rfl
      cases begins
    obtain ⟨k, hk⟩ := List.mem_iff_getElem?.mp recorded
    rw [start?_of_getElem? plain offsets hk, sum_lengthOf_take, Option.some.injEq] at begins
    rw [← begins] at place
    exact ⟨k, hk, f, hk, inside, Int.ofNat.inj place⟩
  · rintro ⟨k, hk, g, hg, inside, place⟩
    obtain rfl : f = g := Option.some.inj (hk.symm.trans hg)
    refine ⟨inside, _, start?_of_getElem? plain offsets hk, ?_⟩
    rw [sum_lengthOf_take]
    exact congrArg Nat.cast place

theorem RecordPlace.unique (plain : s.RecordPlain) (offsets : s.offsets = .ok o)
    {one two : Field × Nat} {i : Nat} (h : s.RecordPlace o one i) (h' : s.RecordPlace o two i) :
    one = two := by
  obtain ⟨k, hk, here⟩ := (recordPlace_iff plain offsets).mp h
  obtain ⟨l, hl, there⟩ := (recordPlace_iff plain offsets).mp h'
  obtain ⟨rfl, same⟩ := Prod.mk.inj (here.unique there)
  exact Prod.ext (Option.some.inj (hk.symm.trans hl)) same

/-- Every state whose recorded arrays are lists has a record, and the offsets address it. -/
theorem exists_addressed (plain : s.RecordPlain) :
    ∃ o record, s.offsets = .ok o ∧ s.pack = .ok (.flat record) ∧ s.Addressed o record := by
  obtain ⟨o, offsets, size, _⟩ := offsets_of_recordPlain plain
  refine ⟨o, s.toArrays.valuesOf Field.recorded, offsets, pack_of_recordPlain plain, ?_, ?_, ?_, ?_⟩
  · rw [size]
    exact congrArg Nat.cast List.length_flatMap.symm
  · intro n f h
    exact start?_of_getElem? plain offsets h
  · intro f recorded n x hx
    obtain ⟨k, hk⟩ := List.mem_iff_getElem?.mp recorded
    have inside : n < (s.toArrays.get f).entries.length := (List.getElem?_eq_some_iff.mp hx).1
    refine ⟨_, (recordPlace_iff plain offsets).mpr ⟨k, hk, f, hk, inside, rfl⟩, ?_⟩
    rw [← hx]
    exact getElem?_flatMap_partStart (f := fun f => (s.toArrays.get f).entries) hk inside
  · intro i hi
    obtain ⟨⟨k, n⟩, here⟩ := exists_partAt hi
    obtain ⟨f, hk, _⟩ := id here
    have place := (recordPlace_iff plain offsets).mpr ⟨k, hk, here⟩
    exact ⟨(f, n), place, fun other there => there.unique plain offsets place⟩

end Places

end WellState

namespace Offsets

theorem anyNegative_ints (sizes : List Int) :
    anyNegative (sizes.map .int) = .ok (sizes.any (· < 0)) := by
  induction sizes with
  | nil => rfl
  | cons n sizes ih =>
      rw [List.map_cons, anyNegative, List.any_cons, ih]
      by_cases negative : n < 0
      · simp [Datum.isNegative, negative, pure, Except.pure, bind, Except.bind]
      · simp [Datum.isNegative, negative, pure, Except.pure, bind, Except.bind]

/-- Five lengths are refused exactly when one of them is negative. -/
theorem read_refuses_iff {sizes : List Int} (count : sizes.length = 5) :
    (∃ cause, read (sizes.map .int) = .error (.record cause)) ↔ ∃ n ∈ sizes, n < 0 := by
  have some_negative : (sizes.any (· < 0)) = true ↔ ∃ n ∈ sizes, n < 0 := by simp
  rw [read, anyNegative_ints, ← some_negative]
  cases negative : sizes.any (· < 0) with
  | true => simp [count, Except.mapError, bind, Except.bind, throw, throwThe, MonadExceptOf.throw]
  | false =>
      refine iff_of_false ?_ nofun
      rintro ⟨cause, h⟩
      cases integers : (sizes.map Datum.int).mapM Datum.integer with
      | error e => simp [count, integers, Except.mapError, bind, Except.bind] at h
      | ok ns =>
          have exact := Datum.mapM_integer (Datum.inRange_of_mapM_integer integers)
          obtain rfl : sizes = ns := Except.ok.inj (exact.symm.trans integers)
          -- What is left to refuse the lengths is a negative one.
          match sizes, count, negative, integers, h with
          | [a, b, c, d, e], _, negative, integers, h =>
            rw [integers] at h
            simp [ofList, ofSizes, negative, Except.mapError, bind, Except.bind] at h

end Offsets

/-- What a state holds of every connection. -/
inductive ConnectionQuantity where
  | pressure
  | rate
deriving DecidableEq, Repr

/-- The field that holds it for all connections. -/
def ConnectionQuantity.field : ConnectionQuantity → Field
  | .pressure => .perfPress
  | .rate => .perfRates

theorem ConnectionQuantity.field_inj {k k' : ConnectionQuantity} (h : k.field = k'.field) :
    k = k' := by
  cases k <;> cases k' <;> first | rfl | cases h

/-- What a state holds of wells: the rate of a phase of a well, and the pressure and the rate of
a connection of a well. -/
inductive Quantity where
  | ofPhase (w p : Nat)
  | ofConnection (k : ConnectionQuantity) (w c : Nat)
deriving DecidableEq, Repr

namespace Quantity

/-- The quantities of a set of wells with a number of phases. -/
def Of (ws : WellSet) (np : Nat) : Quantity → Prop
  | ofPhase w p => w < ws.size ∧ p < np
  | ofConnection _ w c => ∃ well, ws.wells[w]? = some well ∧ c < well.cells.length

/-- The address of a quantity in a record: rates of wells lie row by row, and what belongs to a
connection is counted from where the connections of its well begin. -/
def address? (ws : WellSet) (np : Nat) (o : Offsets) : Quantity → Option Int
  | ofPhase w p => some (o.wellRates + w * np + p)
  | ofConnection k w c => do
    let start ← o.start? k.field
    let position ← ws.connectionPositions[w]?
    pure (start + (position : Int) + c)

/-- What a state holds of a quantity. -/
def value? (ws : WellSet) (s : WellState) : Quantity → Option Float
  | ofPhase w p => do
    let rows ← s.ratesByWell.toOption
    let row ← rows[w]?
    row[p]?
  | ofConnection k w c => do
    let position ← ws.connectionPositions[w]?
    (s.toArrays.get k.field).entries[position + c]?

/-- The field that a quantity is in, and its place there. -/
def place? (ws : WellSet) (np : Nat) : Quantity → Option (Field × Nat)
  | ofPhase w p => some (.wellRates, w * np + p)
  | ofConnection k w c => (ws.flatPosition? w c).map (Prod.mk k.field)

/-- A place in row-major order is that of one row and one column. -/
theorem row_column_inj {n r c r' c' : Nat} (hc : c < n) (hc' : c' < n)
    (h : r * n + c = r' * n + c') : r = r' ∧ c = c' := by
  have row : ∀ r c, c < n → (r * n + c) / n = r := by
    intro r c hc
    rw [Nat.mul_comm, Nat.mul_add_div (Nat.zero_lt_of_lt hc), Nat.div_eq_of_lt hc, Nat.add_zero]
  have same : r = r' := by rw [← row r c hc, h, row r' c' hc']
  subst same
  exact ⟨rfl, Nat.add_left_cancel h⟩

/-- Nothing that belongs to a connection is among the rates of wells. -/
theorem place?_ofConnection_ne (ws : WellSet) (np : Nat) (k : ConnectionQuantity) (w c n : Nat) :
    (ofConnection k w c).place? ws np ≠ some (.wellRates, n) := by
  intro h
  obtain ⟨m, _, same⟩ := Option.map_eq_some_iff.mp h
  cases k <;> cases same

/-- Quantities in the same place are the same. -/
theorem place?_inj {ws : WellSet} {np : Nat} {q r : Quantity} {place : Field × Nat}
    (hq : q.Of ws np) (hr : r.Of ws np) (h : q.place? ws np = some place)
    (h' : r.place? ws np = some place) : q = r := by
  cases q with
  | ofPhase w p =>
      cases h
      cases r with
      | ofPhase v p' =>
          have same : v * np + p' = w * np + p := congrArg Prod.snd (Option.some.inj h')
          obtain ⟨rfl, rfl⟩ := row_column_inj hr.2 hq.2 same
          rfl
      | ofConnection k v d => exact absurd h' (place?_ofConnection_ne ws np k v d _)
  | ofConnection k w c =>
      cases r with
      | ofPhase v p =>
          cases h'
          exact absurd h (place?_ofConnection_ne ws np k w c _)
      | ofConnection k' v d =>
          obtain ⟨m, flat, rfl⟩ := Option.map_eq_some_iff.mp h
          obtain ⟨m', flat', same⟩ := Option.map_eq_some_iff.mp h'
          obtain ⟨field, rfl⟩ := Prod.mk.inj same
          obtain rfl := ConnectionQuantity.field_inj field
          obtain ⟨rfl, rfl⟩ := WellSet.flatPosition?_inj flat flat'
          rfl

end Quantity

namespace WellState

variable {s : WellState} {o : Offsets} {record : List Float} {ws : WellSet} {np : Nat}

/-- The addresses of the quantities of wells: each of them stands in the record, at an address
of its own. -/
structure AddressesWells (s : WellState) (ws : WellSet) (np : Nat) (o : Offsets)
    (record : List Float) : Prop where
  held : ∀ q : Quantity, q.Of ws np → ∃ (i : Nat) (x : Float),
    q.address? ws np o = some (i : Int) ∧ record[i]? = some x ∧ q.value? ws s = some x
  distinct : ∀ q r : Quantity, q.Of ws np → r.Of ws np →
    q.address? ws np o = r.address? ws np o → q = r

section Wells

/-- A quantity of the wells that a state is laid out for is an entry of a recorded field, whose
place makes up the address. -/
theorem exists_entry (laidOut : s.LaidOut (.ofWells (some ws)))
    (count : Layout.phaseCount ws = np) {q : Quantity} (hq : q.Of ws np) :
    ∃ f n x, q.place? ws np = some (f, n) ∧ f ∈ Field.recorded ∧
      (s.toArrays.get f).entries[n]? = some x ∧ q.value? ws s = some x ∧
      ∀ o : Offsets, q.address? ws np o = (o.start? f).map (· + (n : Int)) := by
  subst count
  cases q with
  | ofPhase w p =>
      obtain ⟨hw, hp⟩ := hq
      have readable : (Layout.ofWells (some ws)).Readable := Or.inl (Nat.zero_lt_of_lt hw)
      obtain ⟨x, hx⟩ := laidOut.exists_rate hw hp
      refine ⟨.wellRates, w * Layout.phaseCount ws + p, x, rfl, by decide, hx, ?_, ?_⟩
      · rw [Quantity.value?, laidOut.ratesByWell readable, ← hx]
        exact getElem?_rowsOf hw hp _
      · intro o
        show some (o.wellRates + w * Layout.phaseCount ws + p) = some (o.wellRates + _)
        rw [Int.natCast_add, Int.natCast_mul, Int.add_assoc]
  | ofConnection k w c =>
      obtain ⟨start, position, flat⟩ := WellSet.exists_flatPosition hq
      have length : s.toArrays.lengthOf k.field = ws.totalConnections := by
        rw [laidOut.length]
        cases k <;> rfl
      have inside := (WellSet.lt_totalConnections flat).trans_eq length.symm
      have entry := List.getElem?_eq_getElem inside
      refine ⟨k.field, start + c, _, ?_, ?_, entry, ?_, ?_⟩
      · rw [Quantity.place?, flat, Option.map_some]
      · cases k <;> decide
      · rw [Quantity.value?, position]
        exact entry
      · intro o
        rw [Quantity.address?, position]
        cases o.start? k.field with
        | none => rfl
        | some first => exact congrArg some (Int.add_assoc first start c)

/-- The address of such a quantity is the place of its entry. -/
theorem exists_recordPlace (laidOut : s.LaidOut (.ofWells (some ws)))
    (count : Layout.phaseCount ws = np) (addressed : s.Addressed o record) {q : Quantity}
    (hq : q.Of ws np) :
    ∃ place i x, q.place? ws np = some place ∧ s.RecordPlace o place i ∧
      q.address? ws np o = some (i : Int) ∧ record[i]? = some x ∧ q.value? ws s = some x := by
  obtain ⟨f, n, x, place, recorded, entry, value, address⟩ := exists_entry laidOut count hq
  obtain ⟨i, here, hx⟩ := addressed.entry f recorded n x entry
  obtain ⟨_, start, begins, sum⟩ := id here
  refine ⟨(f, n), i, x, place, here, ?_, hx, value⟩
  rw [address o, begins, Option.map_some]
  exact congrArg some sum

/-- In a state that is laid out for some wells, the quantities of these have addresses. -/
theorem LaidOut.addressesWells (laidOut : s.LaidOut (.ofWells (some ws)))
    (count : Layout.phaseCount ws = np) (offsets : s.offsets = .ok o)
    (addressed : s.Addressed o record) : s.AddressesWells ws np o record := by
  refine ⟨?_, ?_⟩
  · intro q hq
    obtain ⟨_, i, x, _, _, held⟩ := exists_recordPlace laidOut count addressed hq
    exact ⟨i, x, held⟩
  · intro q r hq hr same
    obtain ⟨place, i, _, at_q, here, address, _⟩ := exists_recordPlace laidOut count addressed hq
    obtain ⟨place', i', _, at_r, there, address', _⟩ :=
      exists_recordPlace laidOut count addressed hr
    -- Equal addresses are one position of the record, which is the place of one entry.
    rw [address, address', Option.some.injEq, Int.natCast_inj] at same
    subst same
    obtain rfl := here.unique laidOut.plain.recordPlain offsets there
    exact Quantity.place?_inj hq hr at_q at_r

/-- The first state of some wells has a record that addresses their quantities. -/
theorem exists_addressesWells {settings : Settings} {given : Datum}
    (phases : readPhases ws.phases = .ok np)
    (h : (initial settings (some ws) given).outcome = .ok s) :
    ∃ o record, s.offsets = .ok o ∧ s.pack = .ok (.flat record) ∧ s.Addressed o record ∧
      s.AddressesWells ws np o record := by
  have counted : ∀ w ∈ some ws, Counted w.phases := by
    rintro w ⟨⟩ p read
    cases phases.symm.trans read
    exact Int.natCast_nonneg np
  have laidOut := laidOut_of_initial counted h
  obtain ⟨o, record, offsets, pack, addressed⟩ := exists_addressed laidOut.plain.recordPlain
  exact ⟨o, record, offsets, pack, addressed,
    laidOut.addressesWells (Layout.phaseCount_eq phases) offsets addressed⟩

end Wells

end WellState

end Reservoir
