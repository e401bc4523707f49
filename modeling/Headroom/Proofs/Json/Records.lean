import Headroom.Json.Reader
import Headroom.Json.Writer
import Headroom.Proofs.Decimal
import Headroom.Proofs.Guards
import Headroom.Proofs.Json.Scanning
import Headroom.Proofs.Lookup

/-!
# Records that are written and read

A record is read field by field from the members of an object.  If the members are
written in the order of the fields, each at most once, then every field finds its own
member, and a field that is left out gets what stands in for it.  So it is enough to
know of each field that its own value is read back.

Between writing and reading stands a text.  Its numerals may denote other doubles than
those that were written, so reading back is said relative to what the doubles are
restated as; they are restated as themselves where the numerals are exact.
-/

namespace Headroom

/-- The numeral of a double is read as that double. -/
def Json.ReadsBack (number : Float) : Prop :=
  readText Reader.float (Json.float number).compact = .ok number

/-- A finite double whose numeral denotes the double that it is restated as. -/
structure Restates (restated : Float → Float) (number : Float) : Prop where
  finite : number.isFinite = true
  denotes : Draft.Denotes (Json.numeral (.float number)).toList (.float (restated number))

/-- A value that a reader takes for what was written, once the doubles are restated. -/
structure Reads {α : Type} (restated : Float → Float) (reader : Reader α) (json : Json)
    (value : α) : Prop where
  legible : Draft.Legible restated json
  taken : reader (Draft.ofJson (json.restate restated)) = .ok value

abbrev Exact (number : Float) : Prop := Restates id number

abbrev LegibleExactly (json : Json) : Prop := Draft.Legible id json

abbrev ReadsExactly {α : Type} (reader : Reader α) (json : Json) (value : α) : Prop :=
  Reads id reader json value

/-- What a reader takes for what was written is read from the text. -/
theorem Reads.readText {α : Type} {restated : Float → Float} {reader : Reader α} {json : Json}
    {value : α} (reads : Reads restated reader json value) :
    readText reader json.compact = .ok value := by
  rw [reads.legible.readText, reads.taken]

/-- A field gets a value from what is written for it, or from nothing. -/
inductive Field.Gets {β : Type} (restated : Float → Float) (field : Field β) :
    Option Json → β → Prop where
  | written {json : Json} {value : β} (reads : Reads restated field.read json value) :
      Gets restated field (some json) value
  | omitted {value : β} (stands : field.whenMissing = some value) : Gets restated field none value

namespace RecordReader

variable {α β γ : Type} {restated : Float → Float}

def written (fields : List (String × Option Json)) : List (String × Json) :=
  fields.filterMap fun field => field.2.map fun json => (field.1, json)

/-- A record reader that reads a value off fields of which each is written or left out. -/
structure Builds (restated : Float → Float) (record : RecordReader α)
    (fields : List (String × Option Json)) (value : α) : Prop where
  names : record.names.map (·.1) = fields.map (·.1)
  legible : ∀ entry ∈ written fields, Draft.Legible restated entry.2
  checked : ∀ entry ∈ written fields, ∃ check, (entry.1, check) ∈ record.names ∧
    check (Draft.ofJson (entry.2.restate restated)) = .ok ()
  built : ∀ find : String → Option Draft,
    (∀ field ∈ fields, find field.1 = field.2.map fun json => .ofJson (json.restate restated)) →
      record.fromMembers find = .ok value

namespace Builds

theorem nothing (value : α) : Builds restated (.nothing value) [] value where
  names := rfl
  legible := List.forall_mem_nil _
  checked := List.forall_mem_nil _
  built := fun _ _ => rfl

variable {record : RecordReader (β → α)} {fields : List (String × Option Json)} {build : β → α}

theorem written_append (fields more : List (String × Option Json)) :
    written (fields ++ more) = written fields ++ written more := List.filterMap_append

/-- One more field. -/
theorem field (builds : Builds restated record fields build) {next : Field β} {json : Option Json}
    {value : β} (gets : next.Gets restated json value) :
    Builds restated (record.field next) (fields ++ [(next.name, json)]) (build value) where
  names := by
    rw [RecordReader.field, List.map_append, List.map_append, builds.names]
    rfl
  legible := by
    rw [written_append]
    refine List.forall_mem_append.mpr ⟨builds.legible, ?_⟩
    cases gets with
    | omitted stands => exact List.forall_mem_nil _
    | written reads => exact List.forall_mem_singleton.mpr reads.legible
  checked := by
    rw [written_append]
    refine List.forall_mem_append.mpr ⟨fun entry member => ?_, ?_⟩
    · obtain ⟨check, known, passed⟩ := builds.checked entry member
      exact ⟨check, List.mem_append_left _ known, passed⟩
    · cases gets with
      | omitted stands => exact List.forall_mem_nil _
      | written reads =>
        refine List.forall_mem_singleton.mpr
          ⟨_, List.mem_append_right _ List.mem_cons_self, ?_⟩
        rw [reads.taken]
        rfl
  built := by
    intro find finds
    have earlier := builds.built find fun field member => finds field (List.mem_append_left _ member)
    have last := finds _ (List.mem_append_right _ List.mem_cons_self)
    cases gets with
    | omitted stands =>
      simp only [RecordReader.field, earlier, last, Option.map_none, stands]
      rfl
    | written reads =>
      simp only [RecordReader.field, earlier, last, Option.map_some, reads.taken]
      rfl

end Builds

/-! ## Objects -/

theorem lookup_of_mem {names : List (String × γ)} (distinct : (names.map (·.1)).Nodup)
    {name : String} {value : γ} (member : (name, value) ∈ names) :
    names.lookup name = some value := by
  induction names with
  | nil => cases member
  | cons entry rest ih =>
    rw [List.map_cons, List.nodup_cons] at distinct
    rcases List.mem_cons.mp member with same | inside
    · rw [← same, List.lookup_cons_self]
    · have differs : (name == entry.1) = false := by
        rw [beq_eq_false_iff_ne]
        rintro rfl
        exact distinct.1 (List.mem_map.mpr ⟨_, inside, rfl⟩)
      rw [List.lookup_cons, differs]
      exact ih distinct.2 inside

/-- Members with different names of readable fields are collected, the last one first. -/
theorem collect_written {names : List (String × Reader Unit)} (distinct : (names.map (·.1)).Nodup)
    (members : List (String × Draft))
    (known : ∀ entry ∈ members, ∃ check, (entry.1, check) ∈ names ∧ check entry.2 = .ok ()) :
    ∀ found : List (String × Draft), (found.map (·.1) ++ members.map (·.1)).Nodup →
      collect names found (members.map fun entry => (.string (some entry.1), entry.2)) .closed =
        .ok (members.reverse ++ found) := by
  induction members with
  | nil => exact fun _ _ => rfl
  | cons entry rest ih =>
    intro found nodup
    obtain ⟨check, member, passed⟩ := known entry List.mem_cons_self
    have looked : names.lookup entry.1 = some check := lookup_of_mem distinct member
    have fresh : (found.lookup entry.1).isSome = false := by
      rw [Option.isSome_eq_false_iff, Option.isNone_iff_eq_none, List.lookup_eq_none_iff]
      intro other inside
      rw [bne_iff_ne]
      intro same
      have disjoint := List.disjoint_of_nodup_append nodup
      exact disjoint (List.mem_map.mpr ⟨other, inside, same.symm⟩) List.mem_cons_self
    have later := ih (fun other inside => known other (List.mem_cons_of_mem _ inside))
      (entry :: found) (by
        rw [List.map_cons, List.cons_append]
        exact List.nodup_middle.mp nodup)
    simp only [List.map_cons, collect, Draft.readName, looked, fresh, passed, later,
      Bool.false_eq_true, if_false, List.reverse_cons, List.append_assoc, List.cons_append,
      List.nil_append]

theorem mem_written {fields : List (String × Option Json)} {entry : String × Json} :
    entry ∈ written fields ↔ (entry.1, some entry.2) ∈ fields := by
  constructor
  · intro member
    obtain ⟨field, inside, same⟩ := List.mem_filterMap.mp member
    obtain ⟨json, given, rfl⟩ := Option.map_eq_some_iff.mp same
    rwa [← given]
  · exact fun inside => List.mem_filterMap.mpr ⟨_, inside, rfl⟩

theorem map_written_sublist (fields : List (String × Option Json)) :
    ((written fields).map (·.1)).Sublist (fields.map (·.1)) := by
  induction fields with
  | nil => exact .slnil
  | cons field rest ih =>
    obtain ⟨name, json⟩ := field
    cases json with
    | none => exact ih.cons name
    | some json => exact ih.cons_cons name

def drafted (restated : Float → Float) (fields : List (String × Option Json)) :
    List (String × Draft) :=
  (written fields).map fun entry => (entry.1, .ofJson (entry.2.restate restated))

theorem map_drafted (fields : List (String × Option Json)) :
    (drafted restated fields).map (·.1) = (written fields).map (·.1) := by
  rw [drafted, List.map_map]
  rfl

/-- A field is found by its name if it is written, and only then. -/
theorem lookup_drafted {fields : List (String × Option Json)}
    (distinct : (fields.map (·.1)).Nodup) {name : String} {json : Option Json}
    (inside : (name, json) ∈ fields) :
    (drafted restated fields).reverse.lookup name =
      json.map fun json => .ofJson (json.restate restated) := by
  cases json with
  | some json =>
    have member : (name, Draft.ofJson (json.restate restated)) ∈ drafted restated fields :=
      List.mem_map.mpr ⟨(name, json), mem_written.mpr inside, rfl⟩
    apply lookup_of_mem
    · rw [List.map_reverse, map_drafted]
      exact List.nodup_reverse.mpr (distinct.sublist (map_written_sublist fields))
    · exact List.mem_reverse.mpr member
  | none =>
    rw [Option.map_none, List.lookup_eq_none_iff]
    intro entry member
    obtain ⟨other, written, rfl⟩ := List.mem_map.mp (List.mem_reverse.mp member)
    rw [bne_iff_ne]
    intro same
    have twice := List.inj_on_of_nodup_map distinct inside (mem_written.mp written) same
    cases twice

/-- A record is read from the members that were written for its fields. -/
theorem Builds.read {record : RecordReader α} {fields : List (String × Option Json)} {value : α}
    (builds : Builds restated record fields value) (namesDistinct : (record.names.map (·.1)).Nodup)
    {members : List (String × Json)} (same : written fields = members) :
    Reads restated record.read (.object members) value := by
  subst same
  refine ⟨.object builds.legible, ?_⟩
  have distinct : (fields.map (·.1)).Nodup := builds.names ▸ namesDistinct
  have known : ∀ entry ∈ drafted restated fields, ∃ check, (entry.1, check) ∈ record.names ∧
      check entry.2 = .ok () := by
    intro entry member
    obtain ⟨source, inside, rfl⟩ := List.mem_map.mp member
    exact builds.checked source inside
  have once : ((drafted restated fields).map (·.1)).Nodup :=
    map_drafted fields ▸ distinct.sublist (map_written_sublist fields)
  have collected := collect_written namesDistinct _ known [] once
  have object : Draft.ofJson ((Json.object (written fields)).restate restated) =
      .object ((drafted restated fields).map fun entry => (.string (some entry.1), entry.2))
        .closed := by
    rw [Json.restate_object, Draft.ofJson_object, drafted, List.map_map, List.map_map]
    rfl
  rw [object]
  simp only [RecordReader.read, collected, List.append_nil]
  exact builds.built _ fun field inside => lookup_drafted distinct inside

end RecordReader

/-! ## Doubles -/

namespace Restates

variable {restated : Float → Float} {number : Float}

/-- A double that its numeral is read as needs no restatement. -/
theorem of_readsBack (finite : number.isFinite = true) (back : Json.ReadsBack number) :
    Exact number where
  finite := finite
  denotes := by
    rw [Json.ReadsBack, Json.float, if_pos finite] at back
    exact Draft.denotes_float back

theorem written (restates : Restates restated number) :
    Json.float number = .number (.float number) := if_pos restates.finite

end Restates

/-! ## Values -/

theorem Draft.ofJson_restate_ne_null (restated : Float → Float) {json : Json}
    (notNull : json ≠ .null) : ofJson (json.restate restated) ≠ .null := by
  cases json with
  | null => exact absurd rfl notNull
  | number number => cases number <;> exact Draft.noConfusion
  | _ => simp [Json.restate, ofJson]

namespace Reads

variable {restated : Float → Float}

theorem string (text : String) : Reads restated Reader.string (.string text) text :=
  ⟨.string text, rfl⟩

theorem bool (value : Bool) : Reads restated Reader.bool (.bool value) value := ⟨.bool value, rfl⟩

theorem float {number : Float} (restates : Restates restated number) :
    Reads restated Reader.float (.float number) (restated number) := by
  rw [restates.written]
  exact ⟨.double restates.denotes, rfl⟩

theorem time (value : Int64) : Reads restated Reader.int64 (.time value) value where
  legible := by
    have least := value.le_toInt
    have greatest := value.toInt_lt
    exact .integer (Draft.denotes_integer least (by omega))
  taken := by
    have bounded : Int64.minValue.toInt ≤ value.toInt ∧ value.toInt ≤ Int64.maxValue.toInt :=
      ⟨value.minValue_le_toInt, value.toInt_le⟩
    simp only [Json.time, Json.integer, Json.restate, Draft.ofJson, Reader.int64, Reader.integer,
      if_pos bounded, Except.map, Int64.ofInt_toInt]

theorem natural (value : UInt64) : Reads restated Reader.uint64 (.natural value) value where
  legible := by
    have greatest := value.toNat_lt
    exact .integer (Draft.denotes_integer (by omega) (by omega))
  taken := by
    have bounded : (0 : Int) ≤ value.toNat ∧ (value.toNat : Int) ≤ (UInt64.size - 1 : Nat) := by
      have := value.toNat_lt
      have : UInt64.size = 2 ^ 64 := rfl
      omega
    simp only [Json.natural, Json.integer, Json.restate, Draft.ofJson, Reader.uint64,
      Reader.integer, if_pos bounded, Except.map, Int.toNat_natCast, UInt64.ofNat_toNat]

variable {α β : Type} {reader : Reader α}

/-- A value that is not null is read as one that is there. -/
theorem some {json : Json} {value : α} (reads : Reads restated reader json value)
    (notNull : json ≠ .null) : Reads restated reader.optional json (some value) where
  legible := reads.legible
  taken := by
    have taken := reads.taken
    have draftNotNull := Draft.ofJson_restate_ne_null restated notNull
    generalize Draft.ofJson (json.restate restated) = draft at taken draftNotNull
    cases draft with
    | null => exact absurd rfl draftNotNull
    | _ =>
      rw [Reader.optional, taken]
      · rfl
      · exact draftNotNull

theorem nullable {write : α → Json} {value : Option α}
    (reads : ∀ inner, value = Option.some inner → Reads restated reader (write inner) inner)
    (notNull : ∀ inner, value = Option.some inner → write inner ≠ .null) :
    Reads restated reader.optional (.nullable write value) value := by
  cases value with
  | none => exact ⟨.null, rfl⟩
  | some inner => exact (reads inner rfl).some (notNull inner rfl)

/-- A list is read item by item. -/
theorem list {write : β → Json} {change : β → α} {values : List β}
    (each : ∀ value ∈ values, Reads restated reader (write value) (change value)) :
    Reads restated (Reader.list reader) (.list write values) (values.map change) where
  legible := by
    refine .array fun item member => ?_
    obtain ⟨value, inside, rfl⟩ := List.mem_map.mp member
    exact (each value inside).legible
  taken := by
    rw [Json.list, Json.restate_array, Draft.ofJson_array, List.map_map, List.map_map, Reader.list]
    induction values with
    | nil => rfl
    | cons value rest ih =>
      have first := (each value List.mem_cons_self).taken
      have later := ih fun other member => each other (List.mem_cons_of_mem _ member)
      simp only [List.map_cons, Function.comp_apply, Reader.items, first, later]
      rfl

theorem texts (values : List String) :
    Reads restated (Reader.list Reader.string) (.texts values) values := by
  have read : Reads restated (Reader.list Reader.string) (.texts values) (values.map id) :=
    list fun text _ => string text
  rwa [List.map_id] at read

section Members

variable {κ : Type} [LT κ] [DecidableLT κ] [KeyOrder κ] {key : String → Except Fault κ}
  {name : κ → String}

/-- The members of an object in any order, if every name is read as its key. -/
theorem collected (named : ∀ other, key (name other) = .ok other) {write : α → Json}
    {entries : List (κ × α)}
    (each : ∀ entry ∈ entries, Reads restated reader (write entry.2) entry.2) :
    Reads restated (Reader.dictionary key reader)
      (.object (entries.map fun entry => (name entry.1, write entry.2))) (.ofList entries) where
  legible := by
    refine .object fun member inside => ?_
    obtain ⟨entry, among, rfl⟩ := List.mem_map.mp inside
    exact (each entry among).legible
  taken := by
    have read : Reader.members key reader (entries.map fun entry =>
        (.string (Option.some (name entry.1)), .ofJson ((write entry.2).restate restated)))
          .closed = .ok entries := by
      induction entries with
      | nil => rfl
      | cons entry rest ih =>
        have first := (each entry List.mem_cons_self).taken
        have later := ih fun other member => each other (List.mem_cons_of_mem _ member)
        simp only [List.map_cons, Reader.members, Draft.readName, Except.bind, named, first, later]
        rfl
    rw [Json.restate_object, Draft.ofJson_object, List.map_map, List.map_map, Reader.dictionary]
    simp only [Function.comp_def, read, Except.map]

/-- The members of an object with arbitrary names, in the order of their keys. -/
theorem members (named : ∀ other, key (name other) = .ok other) {write : α → Json}
    {dictionary : Dictionary κ α}
    (each : ∀ entry ∈ dictionary.entries, Reads restated reader (write entry.2) entry.2) :
    Reads restated (Reader.dictionary key reader)
      (.object (dictionary.entries.map fun entry => (name entry.1, write entry.2))) dictionary := by
  have read := collected named each
  rwa [Dictionary.ofList_entries] at read

end Members

theorem dictionary {write : α → Json} {dictionary : Dictionary String α}
    (each : ∀ entry ∈ dictionary.entries, Reads restated reader (write entry.2) entry.2) :
    Reads restated (Reader.textDictionary reader) (.ofDictionary write dictionary) dictionary :=
  members (fun _ => rfl) each

end Reads

/-- A field that may be left out gets its value from what is given. -/
theorem Field.Gets.given {α : Type} {restated : Float → Float} {reader : Reader α}
    {field : Field (Option α)} (read : field.read = reader.optional)
    (missing : field.whenMissing = some none) {write : α → Json} {value : Option α}
    (reads : ∀ inner, value = some inner → Reads restated reader (write inner) inner)
    (notNull : ∀ inner, write inner ≠ .null) : field.Gets restated (value.map write) value := by
  cases value with
  | none => exact .omitted missing
  | some inner => exact .written (read ▸ (reads inner rfl).some (notNull inner))

theorem Field.Gets.text {restated : Float → Float} (name : String) (value : Option String) :
    (Field.optional name Reader.string).Gets restated (value.map .string) value :=
  .given rfl rfl (fun text _ => .string text) fun _ => nofun

theorem Field.Gets.time {restated : Float → Float} (name : String) (value : Option Int64) :
    (Field.optional name Reader.int64).Gets restated (value.map .time) value :=
  .given rfl rfl (fun time _ => .time time) fun _ => nofun

end Headroom
