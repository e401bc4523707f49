import Headroom.Proofs.Json.Finite
import Headroom.Proofs.Json.Scanning

/-!
# Values that are put aside

A value whose shape cannot be judged yet is kept as it stands, down to a limited depth, and
read again later.  Keeping a value that is not too deep loses nothing, and keeping a value
with finite numbers keeps them finite.
-/

namespace Headroom

/-- A value that nests at most `depth` levels. -/
inductive Json.Shallow : Nat → Json → Prop where
  | null (depth : Nat) : Shallow depth .null
  | bool (depth : Nat) (value : Bool) : Shallow depth (.bool value)
  | number (depth : Nat) (value : Number) : Shallow depth (.number value)
  | string (depth : Nat) (text : String) : Shallow depth (.string text)
  | array {depth : Nat} {items : List Json} (each : ∀ item ∈ items, Shallow depth item) :
      Shallow (depth + 1) (.array items)
  | object {depth : Nat} {members : List (String × Json)}
      (each : ∀ entry ∈ members, Shallow depth entry.2) : Shallow (depth + 1) (.object members)

theorem Json.Shallow.float (depth : Nat) (number : Float) : Shallow depth (Json.float number) := by
  rw [Json.float]
  split
  · exact .number depth _
  · exact .null depth

namespace Draft

section Kept

variable {depth : Nat}

theorem toItems_map {items : List Json}
    (each : ∀ item ∈ items, toJson depth (ofJson item) = .ok item) :
    toItems depth (items.map ofJson) .closed = .ok items := by
  induction items with
  | nil => rfl
  | cons item rest ih =>
    rw [List.forall_mem_cons] at each
    simp only [List.map_cons, toItems, each.1, ih each.2]
    rfl

theorem toMembers_map {members : List (String × Json)}
    (each : ∀ entry ∈ members, toJson depth (ofJson entry.2) = .ok entry.2) :
    toMembers depth (members.map fun entry => (.string (some entry.1), ofJson entry.2)) .closed =
      .ok members := by
  induction members with
  | nil => rfl
  | cons entry rest ih =>
    rw [List.forall_mem_cons] at each
    simp only [List.map_cons, toMembers, readName, each.1, ih each.2]
    rfl

end Kept

/-- A value that is not too deep is put aside as it is. -/
theorem toJson_ofJson {depth : Nat} {value : Json} (shallow : value.Shallow depth) :
    toJson depth (ofJson value) = .ok value := by
  induction shallow with
  | array each ih =>
    rw [ofJson_array, toJson, toItems_map ih]
    rfl
  | object each ih =>
    rw [ofJson_object, toJson, toMembers_map ih]
    rfl
  | _ => simp only [ofJson, toJson]

section Finite

variable {depth : Nat}

/-- What holds of every item that is put aside. -/
theorem forall_toItems {p : Json → Prop} {ending : Ending} (items : List Draft) :
    ∀ {values : List Json},
      (∀ item ∈ items, ∀ value, toJson depth item = .ok value → p value) →
        toItems depth items ending = .ok values → ∀ value ∈ values, p value := by
  induction items with
  | nil =>
    intro values _ kept
    cases ending <;> cases kept
    exact List.forall_mem_nil _
  | cons item rest ih =>
    intro values each kept
    rw [List.forall_mem_cons] at each
    rw [toItems] at kept
    cases first : toJson depth item with
    | error fault =>
      rw [first] at kept
      cases kept
    | ok value =>
      simp only [first, Guards.map_eq_ok] at kept
      obtain ⟨others, later, rfl⟩ := kept
      exact List.forall_mem_cons.mpr ⟨each.1 value first, ih each.2 later⟩

/-- What holds of every member that is put aside. -/
theorem forall_toMembers {p : Json → Prop} {ending : Ending} (members : List (Draft × Draft)) :
    ∀ {entries : List (String × Json)},
      (∀ member ∈ members, ∀ value, toJson depth member.2 = .ok value → p value) →
        toMembers depth members ending = .ok entries → ∀ entry ∈ entries, p entry.2 := by
  induction members with
  | nil =>
    intro entries _ kept
    cases ending <;> cases kept
    exact List.forall_mem_nil _
  | cons member rest ih =>
    intro entries each kept
    rw [List.forall_mem_cons] at each
    obtain ⟨name, draft⟩ := member
    rw [toMembers] at kept
    cases named : name.readName with
    | error fault =>
      rw [named] at kept
      cases kept
    | ok name =>
      cases first : toJson depth draft with
      | error fault =>
        simp only [named, first] at kept
        cases kept
      | ok value =>
        simp only [named, first, Guards.map_eq_ok] at kept
        obtain ⟨others, later, rfl⟩ := kept
        exact List.forall_mem_cons.mpr ⟨each.1 value first, ih each.2 later⟩

end Finite

/-- What is put aside of a value with finite numbers has finite numbers. -/
theorem IsFinite.toJson {draft : Draft} (finite : draft.IsFinite) :
    ∀ {depth : Nat} {value : Json}, draft.toJson depth = .ok value → (ofJson value).IsFinite := by
  induction finite with
  | null =>
    intro depth value kept
    cases kept
    exact .null
  | bool value =>
    intro depth kept same
    cases same
    exact .bool value
  | @number value numberFinite =>
    intro depth kept same
    cases value with
    | none => cases same
    | some number =>
      cases same
      exact .number numberFinite
  | string value =>
    intro depth kept same
    cases value with
    | none => cases same
    | some text =>
      cases same
      exact .string (some text)
  | broken whenRead whenSkipped =>
    intro depth kept same
    cases same
  | array each ending ih =>
    intro depth value kept
    cases depth with
    | zero => cases kept
    | succ deeper =>
      rw [Draft.toJson, Guards.map_eq_ok] at kept
      obtain ⟨values, items, rfl⟩ := kept
      rw [ofJson_array]
      refine .array (List.forall_mem_map.mpr ?_) .closed
      exact forall_toItems (p := fun value => (ofJson value).IsFinite) _
        (fun item member value same => ih item member same) items
  | object each ending ih =>
    intro depth value kept
    cases depth with
    | zero => cases kept
    | succ deeper =>
      rw [Draft.toJson, Guards.map_eq_ok] at kept
      obtain ⟨entries, members, rfl⟩ := kept
      rw [ofJson_object]
      refine .object (List.forall_mem_map.mpr ?_) .closed
      exact forall_toMembers (p := fun value => (ofJson value).IsFinite) _
        (fun member inside value same => ih member inside same) members

end Draft

end Headroom
