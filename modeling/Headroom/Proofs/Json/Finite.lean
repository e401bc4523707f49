import Headroom.Json.Reader
import Headroom.Proofs.Decimal
import Headroom.Proofs.Json.Numerals

/-!
# Numbers that are read are finite

Scanning finds no number in a text that is not finite.  Whatever a reader takes from
there is finite as well, so records that come from a text can be written again.
-/

namespace Headroom

namespace Draft

/-! ## Scanning -/

inductive IsFinite : Draft → Prop where
  | null : IsFinite .null
  | bool (value : Bool) : IsFinite (.bool value)
  | number {value : Option Number} (finite : ∀ number, value = some number → number.IsFinite) :
      IsFinite (.number value)
  | string (value : Option String) : IsFinite (.string value)
  | array {items : List Draft} (each : ∀ item ∈ items, IsFinite item) (ending : Ending) :
      IsFinite (.array items ending)
  | object {members : List (Draft × Draft)} (each : ∀ member ∈ members, IsFinite member.2)
      (ending : Ending) : IsFinite (.object members ending)
  | broken (whenRead whenSkipped : Fault) : IsFinite (.broken whenRead whenSkipped)

theorem isFinite_scanWord {value : Draft} (finite : value.IsFinite) (word : List Char) :
    ∀ text, (scanWord value word text).root.IsFinite := by
  induction word with
  | nil =>
    intro text
    rw [scanWord]
    exact finite
  | cons expected word ih =>
    intro text
    cases text with
    | nil =>
      rw [scanWord]
      exact .broken _ _
    | cons char rest =>
      rw [scanWord]
      split
      · exact ih rest
      · exact .broken _ _

/-- Scanning a string finds no number. -/
theorem isFinite_scanString (content : List Char) (sound : Bool) (fuel : Nat) (text : List Char) :
    (scanString content sound fuel text).root.IsFinite := by
  have broken (sound : Bool) (fault : Fault) : (brokenString sound fault).root.IsFinite :=
    .broken _ _
  induction fuel generalizing content sound text with
  | zero =>
    rw [scanString]
    exact broken sound _
  | succ fuel ih =>
    rw [scanString.eq_def]
    cases text with
    | nil => exact broken sound _
    | cons char rest =>
      simp only
      split
      · exact .string _
      split
      · split
        · exact broken sound _
        · split
          · exact ih _ _ _
          · exact ih _ _ _
          · exact broken sound _
        · split
          · exact ih _ _ _
          · exact broken sound _
      split
      · exact broken sound _
      · exact ih _ _ _

theorem isFinite_scanFraction {literal : Decimal.Literal} {text : List Char} {stopped : Scanned}
    (stops : scanFraction literal text = .error stopped) : stopped.root.IsFinite := by
  rw [scanFraction.eq_def] at stops
  split at stops
  · simp only at stops
    split at stops
    · cases stops
      exact .broken _ _
    · cases stops
  · cases stops

theorem isFinite_scanExponent {literal : Decimal.Literal} {text : List Char} {stopped : Scanned}
    (stops : scanExponent literal text = .error stopped) : stopped.root.IsFinite := by
  cases text with
  | nil => cases stops
  | cons mark rest =>
    by_cases marked : mark = 'e' ∨ mark = 'E'
    · rw [scanExponent_mark marked] at stops
      simp only at stops
      split at stops
      · cases stops
        exact .broken _ _
      · cases stops
    · simp only [scanExponent, if_neg marked] at stops
      cases stops

/-- A numeral is scanned as a finite number or as nothing. -/
theorem isFinite_scanNumber (negative : Bool) (text : List Char) :
    (scanNumber negative text).root.IsFinite := by
  simp only [scanNumber]
  split
  · exact .broken _ _
  · exact .broken _ _
  split
  · rename_i stops
    exact isFinite_scanFraction stops
  split
  · rename_i stops
    exact isFinite_scanExponent stops
  · exact .number fun number denoted => isFinite_numberOf? denoted

structure ScansFinite (fuel : Nat) : Prop where
  value : ∀ text, (scanValue fuel text).root.IsFinite
  items : ∀ first text, ∀ item ∈ (scanItems fuel first text).1, item.IsFinite
  members : ∀ first text, ∀ member ∈ (scanMembers fuel first text).1, member.2.IsFinite
  member : ∀ text, ∀ member ∈ (scanMember fuel text).1, member.2.IsFinite

theorem ScansFinite.succ_value {fuel : Nat} (scans : ScansFinite fuel) (text : List Char) :
    (scanValue (fuel + 1) text).root.IsFinite := by
  rw [scanValue]
  split
  · exact .broken _ _
  · exact isFinite_scanString _ _ _ _
  · exact .array (scans.items true _) _
  · exact .object (scans.members true _) _
  · exact isFinite_scanWord .null _ _
  · exact isFinite_scanWord (.bool true) _ _
  · exact isFinite_scanWord (.bool false) _ _
  · exact isFinite_scanNumber true _
  · split
    · exact isFinite_scanNumber false _
    · exact .broken _ _

theorem ScansFinite.succ_items {fuel : Nat} (scans : ScansFinite fuel) (first : Bool)
    (text : List Char) : ∀ item ∈ (scanItems (fuel + 1) first text).1, item.IsFinite := by
  have one (text : List Char) : ∀ item ∈ (scanValue fuel text).root ::
      (scanItems fuel false (scanValue fuel text).rest).1, item.IsFinite :=
    List.forall_mem_cons.mpr ⟨scans.value text, scans.items false _⟩
  rw [scanItems]
  split
  · exact List.forall_mem_nil _
  · exact List.forall_mem_nil _
  split
  · exact one _
  split
  · split
    · exact List.forall_mem_nil _
    · exact List.forall_mem_nil _
    · exact one _
  · exact List.forall_mem_nil _

theorem ScansFinite.succ_members {fuel : Nat} (scans : ScansFinite fuel) (first : Bool)
    (text : List Char) : ∀ member ∈ (scanMembers (fuel + 1) first text).1, member.2.IsFinite := by
  rw [scanMembers]
  split
  · exact List.forall_mem_nil _
  · exact List.forall_mem_nil _
  split
  · split
    · exact scans.member _
    · exact List.forall_mem_nil _
  split
  · split
    · exact List.forall_mem_nil _
    · exact scans.member _
    · exact List.forall_mem_nil _
  · exact List.forall_mem_nil _

theorem ScansFinite.succ_member {fuel : Nat} (scans : ScansFinite fuel) (text : List Char) :
    ∀ member ∈ (scanMember (fuel + 1) text).1, member.2.IsFinite := by
  simp only [scanMember]
  split
  · exact List.forall_mem_cons.mpr ⟨scans.value _, scans.members false _⟩
  · exact List.forall_mem_cons.mpr ⟨.broken _ _, List.forall_mem_nil _⟩
  · exact List.forall_mem_cons.mpr ⟨.broken _ _, List.forall_mem_nil _⟩

theorem scansFinite (fuel : Nat) : ScansFinite fuel := by
  induction fuel with
  | zero =>
    constructor
    · intro text
      rw [scanValue]
      exact .broken _ _
    · intro first text
      rw [scanItems]
      exact List.forall_mem_nil _
    · intro first text
      rw [scanMembers]
      exact List.forall_mem_nil _
    · intro text
      rw [scanMember]
      exact List.forall_mem_nil _
  | succ fuel ih => exact ⟨ih.succ_value, ih.succ_items, ih.succ_members, ih.succ_member⟩

/-- Every number that is found in a text is finite. -/
theorem isFinite_scan (text : String) : (scan text).root.IsFinite := (scansFinite _).value _

end Draft

/-! ## Reading -/

/-- A reader that takes only values with a property from drafts with finite numbers. -/
def Reader.Yields {α : Type} (reader : Reader α) (p : α → Prop) : Prop :=
  ∀ ⦃draft : Draft⦄ ⦃value : α⦄, draft.IsFinite → reader draft = .ok value → p value

/-- A field that gets only values with a property, be they read or stand in for it. -/
structure Field.Yields {α : Type} (field : Field α) (p : α → Prop) : Prop where
  read : field.read.Yields p
  missing : ∀ value, field.whenMissing = some value → p value
  short : ∀ value, field.whenShort = some value → p value

/-- A record reader that builds only values with a property. -/
structure RecordReader.Yields {α : Type} (record : RecordReader α) (p : α → Prop) : Prop where
  members : ∀ {find : String → Option Draft} {value : α},
    (∀ name draft, find name = some draft → draft.IsFinite) →
      record.fromMembers find = .ok value → p value
  items : ∀ {items : List Draft} {ending : Ending} {value : α} {rest : List Draft},
    (∀ item ∈ items, item.IsFinite) → record.fromItems items ending = .ok (value, rest) →
      p value ∧ ∀ item ∈ rest, item.IsFinite

namespace Reader.Yields

theorem float : Reader.float.Yields fun value => value.isFinite = true := by
  intro draft value finite read
  cases finite with
  | number finite =>
    rename_i number
    cases number with
    | none => cases read
    | some number =>
      have numberFinite := finite number rfl
      cases number <;> cases read <;> exact numberFinite
  | _ => cases read

/-- A list of values with a property is read as one. -/
theorem list {α : Type} {reader : Reader α} {p : α → Prop} (each : reader.Yields p) :
    (Reader.list reader).Yields fun values => ∀ value ∈ values, p value := by
  have items (drafts : List Draft) (ending : Ending) : ∀ {values : List α},
      (∀ draft ∈ drafts, draft.IsFinite) → Reader.items reader drafts ending = .ok values →
        ∀ value ∈ values, p value := by
    induction drafts with
    | nil =>
      intro values _ read
      cases ending <;> cases read
      exact List.forall_mem_nil _
    | cons draft rest ih =>
      intro values finite read
      rw [List.forall_mem_cons] at finite
      simp only [Reader.items] at read
      cases first : reader draft with
      | error fault =>
        rw [first] at read
        cases read
      | ok value =>
        rw [first] at read
        cases others : Reader.items reader rest ending with
        | error fault =>
          rw [others] at read
          cases read
        | ok more =>
          rw [others] at read
          cases read
          exact List.forall_mem_cons.mpr ⟨each finite.1 first, ih finite.2 others⟩
  intro draft values finite read
  cases finite with
  | array each ending => exact items _ ending each read
  | _ => cases read

theorem optional {α : Type} {reader : Reader α} {p : α → Prop} (yields : reader.Yields p) :
    reader.optional.Yields fun value => ∀ inner, value = some inner → p inner := by
  intro draft value finite read inner same
  subst same
  rw [Reader.optional.eq_def] at read
  split at read
  · cases read
  · obtain ⟨value, taken, same⟩ := Guards.map_eq_ok.mp read
    cases same
    exact yields finite taken

end Reader.Yields

namespace Field.Yields

variable {α : Type} {p : α → Prop}

theorem any (field : Field α) : field.Yields fun _ => True :=
  ⟨fun _ _ _ _ => trivial, fun _ _ => trivial, fun _ _ => trivial⟩

theorem required {name : String} {reader : Reader α} (read : reader.Yields p) :
    (Field.required name reader).Yields p :=
  ⟨read, nofun, nofun⟩

theorem withDefault {name : String} {reader : Reader α} {default : α} (read : reader.Yields p)
    (stands : p default) : (Field.withDefault name reader default).Yields p where
  read := read
  missing := by
    intro value same
    cases same
    exact stands
  short := by
    intro value same
    cases same
    exact stands

theorem nullable {name : String} {reader : Reader α} (read : reader.Yields p) :
    (Field.nullable name reader).Yields fun value => ∀ inner, value = some inner → p inner where
  read := read.optional
  missing := by
    intro value same
    cases same
    nofun
  short := nofun

end Field.Yields

namespace RecordReader.Yields

variable {α β : Type} {p : α → Prop}

theorem nothing {value : α} (holds : p value) : (RecordReader.nothing value).Yields p where
  members := by
    intro _ _ _ read
    cases read
    exact holds
  items := by
    intro _ _ _ _ finite read
    cases read
    exact ⟨holds, finite⟩

/-- One more field, for a record that has its property once the field has its own. -/
theorem field {record : RecordReader (β → α)} {next : Field β} {q : β → Prop}
    (nextYields : next.Yields q)
    (yields : record.Yields fun build => ∀ value, q value → p (build value)) :
    (record.field next).Yields p where
  members := by
    intro find result finite read
    simp only [RecordReader.field, Guards.bind_eq_ok] at read
    obtain ⟨build, built, read⟩ := read
    have waits := yields.members finite built
    cases found : find next.name with
    | some draft =>
      rw [found] at read
      cases taken : next.read draft with
      | error fault =>
        simp only [taken] at read
        cases read
      | ok value =>
        simp only [taken] at read
        cases read
        exact waits _ (nextYields.read (finite _ _ found) taken)
    | none =>
      rw [found] at read
      cases missing : next.whenMissing with
      | none =>
        simp only [missing] at read
        cases read
      | some value =>
        simp only [missing] at read
        cases read
        exact waits _ (nextYields.missing _ missing)
  items := by
    intro items ending result rest finite read
    simp only [RecordReader.field, Guards.bind_eq_ok] at read
    obtain ⟨⟨build, waiting⟩, built, read⟩ := read
    obtain ⟨waits, waitingFinite⟩ := yields.items finite built
    cases waiting with
    | cons item more =>
      rw [List.forall_mem_cons] at waitingFinite
      simp only [Guards.bind_eq_ok] at read
      obtain ⟨value, taken, read⟩ := read
      cases read
      exact ⟨waits _ (nextYields.read waitingFinite.1 taken), waitingFinite.2⟩
    | nil =>
      cases ending with
      | broken whenMore whenDone => cases read
      | closed =>
        cases short : next.whenShort with
        | none =>
          simp only [short] at read
          cases read
        | some value =>
          simp only [short] at read
          cases read
          exact ⟨waits _ (nextYields.short _ short), List.forall_mem_nil _⟩

/-- The members that a record reader collects are among those of the draft. -/
theorem collect {names : List (String × Reader Unit)} {ending : Ending}
    (members : List (Draft × Draft)) : ∀ {found collected : List (String × Draft)},
      (∀ entry ∈ found, entry.2.IsFinite) → (∀ member ∈ members, member.2.IsFinite) →
        RecordReader.collect names found members ending = .ok collected →
          ∀ entry ∈ collected, entry.2.IsFinite := by
  induction members with
  | nil =>
    intro found collected finite _ read
    cases ending <;> cases read
    exact finite
  | cons member rest ih =>
    intro found collected finite membersFinite read
    rw [List.forall_mem_cons] at membersFinite
    obtain ⟨name, value⟩ := member
    simp only [RecordReader.collect] at read
    split at read
    · cases read
    split at read
    · split at read
      · cases read
      · exact ih finite membersFinite.2 read
    split at read
    · cases read
    split at read
    · cases read
    · exact ih (List.forall_mem_cons.mpr ⟨membersFinite.1, finite⟩) membersFinite.2 read

/-- A record has its property in either of its forms. -/
theorem read {record : RecordReader α} (yields : record.Yields p) : record.read.Yields p := by
  intro draft value finite read
  cases finite with
  | object each ending =>
    simp only [RecordReader.read, Guards.bind_eq_ok] at read
    obtain ⟨found, collected, built⟩ := read
    have foundFinite := collect _ (List.forall_mem_nil _) each collected
    refine yields.members (fun name draft looked => ?_) built
    obtain ⟨before, after, rfl, _⟩ := List.lookup_eq_some_iff.mp looked
    exact foundFinite (name, draft) (List.mem_append_right _ List.mem_cons_self)
  | array each ending =>
    simp only [RecordReader.read, Guards.bind_eq_ok] at read
    obtain ⟨⟨taken, rest⟩, built, read⟩ := read
    have holds := (yields.items each built).1
    simp only at read
    split at read <;> cases read
    exact holds
  | _ => cases read

end RecordReader.Yields

/-- A value that is read from a text has the property that its reader makes sure of. -/
theorem Reader.Yields.readText {α : Type} {reader : Reader α} {p : α → Prop}
    (yields : reader.Yields p) {text : String} {value : α}
    (read : readText reader text = .ok value) : p value := by
  simp only [Headroom.readText, Scanned.read, Guards.bind_eq_ok] at read
  obtain ⟨root, taken, read⟩ := read
  split at read <;> cases read
  exact yields (Draft.isFinite_scan text) taken

end Headroom
