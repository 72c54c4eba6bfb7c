import Reservoir.State.Basic

/-!
# Restart records

A restart record is the concatenation of five arrays of a state, in the order of
`Field.recorded`; tubing head pressures are not part of it. `Offsets` says where each array
begins, and `unpack` writes a record of the right length back, array by array. An array that
is no plain list takes its part of the record in each of its rows; if it cannot, the arrays
before it have been written already.
-/

namespace Reservoir

/-- Where the arrays of a record begin, and where the record ends. -/
structure Offsets where
  bhp : Int
  perfPress : Int
  perfRates : Int
  temperature : Int
  wellRates : Int
  size : Int
deriving DecidableEq, Repr

namespace Offsets

/-- The offsets of arrays of given lengths, in record order. -/
def ofSizes (bhp perfPress perfRates temperature wellRates : Int) : Except RecordFault Offsets :=
  let sizes := [bhp, perfPress, perfRates, temperature, wellRates]
  if sizes.any (· < 0) then .error (.negativeSize (sizes.map .int))
  else
    .ok
      { bhp := 0
        perfPress := bhp
        perfRates := bhp + perfPress
        temperature := bhp + perfPress + perfRates
        wellRates := bhp + perfPress + perfRates + temperature
        size := bhp + perfPress + perfRates + temperature + wellRates }

/-- The offsets of a list of lengths, which must be five. -/
def ofList : List Int → Except Fault Offsets
  | [a, b, c, d, e] => (ofSizes a b c d e).mapError .record
  | _ => .error (.input .argumentCount)

/-- Whether one of some given lengths is negative. The first one that is ends the search. -/
def anyNegative : List Datum → Except InputFault Bool
  | [] => pure false
  | d :: ds => do
    if ← d.isNegative then pure true else anyNegative ds

/-- The offsets of a list of given lengths. A double is cut to an integer. -/
def read (given : List Datum) : Except Fault Offsets := do
  if given.length ≠ 5 then throw (.input .argumentCount)
  else if ← (anyNegative given).mapError .input then throw (.record (.negativeSize given))
  else
    let sizes ← (given.mapM Datum.integer).mapError .input
    ofList sizes

/-- The beginning of a field; a field outside the record has none. -/
def start? (o : Offsets) : Field → Option Int
  | .bhp => some o.bhp
  | .perfPress => some o.perfPress
  | .perfRates => some o.perfRates
  | .temperature => some o.temperature
  | .wellRates => some o.wellRates
  | .thp => none

/-- The recorded fields with the positions from which and up to which a record holds them. -/
def parts (o : Offsets) : List (Field × Int × Int) :=
  [(.bhp, o.bhp, o.perfPress), (.perfPress, o.perfPress, o.perfRates),
   (.perfRates, o.perfRates, o.temperature), (.temperature, o.temperature, o.wellRates),
   (.wellRates, o.wellRates, o.size)]

end Offsets

/-- The entries of a list from position `a` up to, not including, position `b`. -/
def slice (xs : List Float) (a b : Int) : List Float :=
  (xs.drop a.toNat).take (b - a).toNat

namespace Arrays

/-- Arrays with the parts of a record written into them in turn. The first array that cannot
take its part ends the writing. -/
def writeParts (a : Arrays (Block Float)) (record : List Float) :
    List (Field × Int × Int) → Arrays (Block Float) × Except InputFault Unit
  | [] => (a, .ok ())
  | (f, start, stop) :: rest =>
    match (a.get f).assign (.flat (slice record start stop)) with
    | .ok b => writeParts (a.set f b) record rest
    | .error e => (a, .error e)

end Arrays

namespace WellState

/-- The record offsets of a state. -/
def offsets (s : WellState) : Except Fault Offsets := do
  let sizes ← (Field.recorded.mapM fun f => (s.toArrays.get f).length?).mapError .input
  Offsets.ofList (sizes.map Int.ofNat)

/-- The restart record of a state. -/
def pack (s : WellState) : Except InputFault (Block Float) :=
  Block.concat (Field.recorded.map s.toArrays.get)

/-- A state with its recorded arrays read from a record of the right length, and whether all
of them could be. -/
def unpack (s : WellState) (record : List Float) :
    Except Fault (WellState × Except InputFault Unit) := do
  let o ← s.offsets
  if (record.length : Int) = o.size then
    let (arrays, outcome) := s.toArrays.writeParts record o.parts
    pure ({ s with toArrays := arrays }, outcome)
  else throw (.record (.size record.length o.size.toNat))

end WellState

end Reservoir
