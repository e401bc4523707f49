import Headroom.Dictionary
import Headroom.Json.Value

/-!
# Sorted documents

A document in which the members of every object stand in the order of their names,
so that documents with the same content are written alike.
-/

namespace Headroom.Json

mutual

/-- A value with all its members in order; of repeated members the last one is kept. -/
def sorted : Json → Json
  | .array items => .array (sortedItems items)
  | .object members => .object (Dictionary.ofList (sortedMembers members)).entries
  | value => value

def sortedItems : List Json → List Json
  | [] => []
  | item :: rest => sorted item :: sortedItems rest

def sortedMembers : List (String × Json) → List (String × Json)
  | [] => []
  | (name, value) :: rest => (name, sorted value) :: sortedMembers rest

end

end Headroom.Json
