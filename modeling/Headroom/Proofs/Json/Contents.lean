import Headroom.Json.Value
import Headroom.Json.Writer
import Mathlib

/-!
# What is in a document

The doubles that a document holds, and documents that hold the same whatever the order of their
members.
-/

namespace Headroom.Json

/-! ## Doubles -/

mutual

def doubles : Json → List Float
  | .number (.float value) => [value]
  | .array items => itemDoubles items
  | .object members => memberDoubles members
  | _ => []

def itemDoubles : List Json → List Float
  | [] => []
  | item :: rest => item.doubles ++ itemDoubles rest

def memberDoubles : List (String × Json) → List Float
  | [] => []
  | (_, value) :: rest => value.doubles ++ memberDoubles rest

end

@[simp]
theorem doubles_array (items : List Json) : (Json.array items).doubles = items.flatMap doubles := by
  rw [doubles]
  induction items with
  | nil => rfl
  | cons item rest ih => rw [itemDoubles, List.flatMap_cons, ih]

@[simp]
theorem doubles_object (members : List (String × Json)) :
    (Json.object members).doubles = members.flatMap fun entry => entry.2.doubles := by
  rw [doubles]
  induction members with
  | nil => rfl
  | cons entry rest ih => rw [memberDoubles, List.flatMap_cons, ih]

@[simp]
theorem doubles_list {α : Type} (write : α → Json) (values : List α) :
    (list write values).doubles = values.flatMap fun value => (write value).doubles := by
  rw [list, doubles_array, List.flatMap_map]

theorem doubles_float {number : Float} (finite : number.isFinite = true) :
    (Json.float number).doubles = [number] := by
  rw [Json.float, if_pos finite]
  rfl

/-- What holds texts only, in lists by name, holds no double. -/
theorem doubles_ofDictionary_texts (dictionary : Dictionary String (List String)) :
    (ofDictionary texts dictionary).doubles = [] := by
  rw [ofDictionary, doubles_object, List.flatMap_eq_nil_iff]
  intro entry member
  obtain ⟨port, _, rfl⟩ := List.mem_map.mp member
  rw [texts, doubles_array, List.flatMap_eq_nil_iff]
  intro item inside
  obtain ⟨text, _, rfl⟩ := List.mem_map.mp inside
  rfl

/-! ## Order of members -/

/-- Documents that differ at most in the order of the members of their objects. -/
inductive Reordered : Json → Json → Prop where
  | refl (json : Json) : Reordered json json
  | trans {first second third : Json} (before : Reordered first second)
      (after : Reordered second third) : Reordered first third
  | shuffled {members others : List (String × Json)} (same : members.Perm others) :
      Reordered (.object members) (.object others)
  | member {value other : Json} (before : List (String × Json)) (name : String)
      (after : List (String × Json)) (inner : Reordered value other) :
      Reordered (.object (before ++ (name, value) :: after))
        (.object (before ++ (name, other) :: after))
  | item {value other : Json} (before after : List Json) (inner : Reordered value other) :
      Reordered (.array (before ++ value :: after)) (.array (before ++ other :: after))

end Headroom.Json
