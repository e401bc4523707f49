/-!
# JSON values

The values this library writes.  Integers and doubles are told apart, because a
double keeps its point when it is written and an integer never has one; members
of an object keep their order.
-/

namespace Headroom

/-- A JSON number: an integer literal or a double. -/
inductive Number where
  | integer (value : Int)
  | float (value : Float)

/-- A JSON value. -/
inductive Json where
  | null
  | bool (value : Bool)
  | number (value : Number)
  | string (value : String)
  | array (items : List Json)
  | object (members : List (String × Json))

namespace Json

instance inhabited : Inhabited Json := ⟨null⟩

def integer (value : Int) : Json := .number (.integer value)

/-- A double; a value that is not finite has no numeral and becomes null. -/
def float (value : Float) : Json :=
  if value.isFinite then .number (.float value) else .null

/-- The value of a member, the last one if it is repeated. -/
def member? (value : Json) (name : String) : Option Json :=
  match value with
  | .object members => (members.reverse.find? fun entry => entry.1 == name).map (·.2)
  | _ => none

end Json

end Headroom
