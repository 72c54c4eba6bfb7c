import Reservoir.Control.Stack

/-!
# Wells

A well is an injector or a producer that perforates an ordered list of cells, the top one
first, and is operated by a control stack. The role of a well that was changed by hand may be
any value.
-/

namespace Reservoir

/-- Whether a well brings fluid into the reservoir or out of it. -/
inductive Role where
  | injector
  | producer
deriving DecidableEq, Repr

namespace Role

def name : Role → String
  | .injector => "INJECTOR"
  | .producer => "PRODUCER"

/-- The word for a role in reports. -/
def word : Role → String
  | .injector => "injector"
  | .producer => "producer"

def all : List Role := [.injector, .producer]

/-- The sign of a rate: injection is positive. -/
def sign : Role → Float
  | .injector => 1.0
  | .producer => -1.0

end Role

structure Well where
  name : String
  role : Choice Role
  /-- Perforated cells, top first. -/
  cells : List Int
  stack : ControlStack

namespace Well

def isInjector (w : Well) : Bool :=
  w.role.member? == some .injector

/-- The role, which must be one. -/
def requireRole (w : Well) : Except WellFault Role :=
  match w.role with
  | .member r => .ok r
  | .other given => .error (.unknownRole w.name given)

/-- The cell of the top connection. -/
def firstCell (w : Well) : Except WellFault Int :=
  match w.cells with
  | c :: _ => .ok c
  | [] => .error (.noConnections w.name)

end Well

end Reservoir
