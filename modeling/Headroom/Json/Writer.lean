import Headroom.Dictionary
import Headroom.Json.Value

/-!
# Writing values

Shorthands for the members and values that documents are made of.
-/

namespace Headroom.Json

/-- A member that is left out when there is no value. -/
def given {α : Type} (name : String) (write : α → Json) : Option α → List (String × Json)
  | some value => [(name, write value)]
  | none => []

def time (value : Int64) : Json := .integer value.toInt

def texts (values : List String) : Json := .array (values.map Json.string)

def ofDictionary {α : Type} (write : α → Json) (dictionary : Dictionary String α) : Json :=
  .object (dictionary.entries.map fun entry => (entry.1, write entry.2))

/-- A value, or null when there is none. -/
def nullable {α : Type} (write : α → Json) : Option α → Json
  | some value => write value
  | none => .null

def natural (value : UInt64) : Json := .integer value.toNat

def list {α : Type} (write : α → Json) (values : List α) : Json := .array (values.map write)

end Headroom.Json
