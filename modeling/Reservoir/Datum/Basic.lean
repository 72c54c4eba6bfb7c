import Reservoir.Number.Decimal
import Reservoir.Text.Quoted

/-!
# Values as a caller gives them

Arguments that are checked before they are used arrive as a `Datum`, so that a refusal can
show the value as it was written: whole numbers apart from doubles, lists as they were
nested. `Choice` is the result of naming a member of a closed type: the member, or the value
that named none.
-/

namespace Reservoir

/-- A value as it was given. A record keeps its keys and its values side by side. -/
inductive Datum where
  | null
  | bool (b : Bool)
  | int (n : Int)
  | float (x : Float)
  | text (s : String)
  | list (items : List Datum)
  | record (keys : List String) (values : List Datum)
deriving Inhabited

namespace Datum

mutual

/-- A value as it is shown in a message. -/
def render : Datum → String
  | .null => "None"
  | .bool true => "True"
  | .bool false => "False"
  | .int n => toString n
  | .float x => Decimal.text x
  | .text s => Text.quoted s
  | .list items => "[" ++ ", ".intercalate (renderAll items) ++ "]"
  | .record keys values =>
    let entries := List.zipWith (fun k v => Text.quoted k ++ ": " ++ v) keys (renderAll values)
    "\x7b" ++ ", ".intercalate entries ++ "\x7d"

/-- Each value of a list as it is shown in a message. -/
def renderAll : List Datum → List String
  | [] => []
  | d :: ds => d.render :: renderAll ds

end

/-- A value as it stands among the words of a message: a text has no quotes there. -/
def display : Datum → String
  | .text s => s
  | d => d.render

end Datum

/-- A member of `α`, or the value given in place of one. -/
inductive Choice (α : Type) where
  | member (a : α)
  | other (value : Datum)

namespace Choice

variable {α : Type}

/-- The member, if there is one. -/
def member? : Choice α → Option α
  | .member a => some a
  | .other _ => none

@[simp] theorem member?_member (a : α) : (member a).member? = some a := rfl

@[simp] theorem member?_other (v : Datum) : (other v : Choice α).member? = none := rfl

/-- A choice as a value. -/
def toDatum (datum : α → Datum) : Choice α → Datum
  | .member a => datum a
  | .other d => d

/-- A choice among the words of a message. -/
def display (name : α → String) : Choice α → String
  | .member a => name a
  | .other d => d.display

end Choice

end Reservoir
