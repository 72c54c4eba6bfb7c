import Reservoir.Control.Command
import Reservoir.State.BarChart
import Reservoir.State.Record
import Reservoir.Well.WellSet

/-!
# Commands of a session

A command is one call on the named objects of a session: well sets, states and held arrays.
Names are looked up when the command is run. Settings are given by field, or not at all.
-/

namespace Reservoir

/-- Settings as they are given: fields by name, or nothing for the default ones. -/
abbrev SettingsRequest := Option (List GivenSettings.Field)

namespace SettingsRequest

def read (r : SettingsRequest) : Except Fault GivenSettings :=
  match r with
  | some fields => GivenSettings.ofFields fields
  | none => .ok {}

end SettingsRequest

/-- A call that reports nothing beside its answer. Where a well set may be missing, `none`
stands for no wells. -/
inductive PlainCommand where
  | makeWells (id : String) (phases : Choice Int)
  | addWell (wells name : String) (role : Choice Role) (cells : Datum)
  | control (wells : String) (w : Int) (call : ControlCommand)
  | showWell (wells : String) (w : Int)
  | firstCell (wells : String) (w : Int)
  | layout (wells : String)
  | setRole (wells : String) (w : Int) (role : Choice Role)
  | setPhases (wells : String) (phases : Choice Int)
  | makeState (id : String) (settings : SettingsRequest)
  | showState (state : String)
  | poke (state : String) (field : Field) (index : Int) (value : Datum)
  | pokeRate (state : String) (w p : Int) (value : Datum)
  | replace (state : String) (field : Field) (values : Datum)
  | hold (state : String) (field : Field) (id : String)
  | held (id : String)
  | ratesByWell (state : String)
  | offsets (state : String)
  | pack (state : String)
  | unpack (state : String) (record : Datum)
  | unpackFrom (state source : String)
  | table (state : String) (wells : Option String)
  | chart (state : String) (wells : Option String) (settings : SettingsRequest)

/-- One call on the objects of a session. Making the first state of wells is reported. -/
inductive Command where
  | seed (id : String) (wells : Option String) (pressure : Datum)
      (settings : SettingsRequest)
  | reseed (state : String) (wells : Option String) (pressure : Datum)
  | plain (command : PlainCommand)

/-- The answer to a call on the objects of a session. -/
inductive Reply where
  | done
  | well (w : Well)
  | control (reply : ControlReply) (stack : ControlStack)
  | cell (c : Int)
  | layout (wells : WellSet)
  | state (s : StateView)
  | values (b : Block Float)
  | rates (width : Nat) (rows : List (List Float))
  | offsets (o : Offsets)
  | table (t : Table)
  | chart (c : BarChart)

end Reservoir
