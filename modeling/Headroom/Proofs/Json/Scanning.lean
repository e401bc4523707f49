import Headroom.Proofs.Json.Numerals

/-!
# What is written is scanned as it was

Every value that the library writes without blanks is scanned as that value, whatever
follows it in the text.  For integers this needs that they are within 64 bits.  The numeral
of a double may denote another double; then the value is scanned with that one in its place.
-/

namespace Headroom

open Json (escape hexDigit quote)

namespace Draft

/-! ## Strings -/

theorem hexValue?_hexDigit (value : Nat) : hexValue? (hexDigit value) = some (value % 16) := by
  have each : ∀ digit : Fin 16, hexValue? (Nat.digitChar digit) = some digit.val := by decide
  exact each ⟨value % 16, Nat.mod_lt _ (by decide)⟩

/-- A control character is found behind the escape that is written for it. -/
theorem unit16_control {char : Char} (control : char.toNat < 32) (rest : List Char) :
    unit16 ('0' :: '0' :: hexDigit (char.toNat / 16) :: hexDigit char.toNat :: rest) =
      .char char rest := by
  have zero : hexValue? '0' = some 0 := rfl
  have value : ((0 * 16 + 0) * 16 + char.toNat / 16 % 16) * 16 + char.toNat % 16 = char.toNat := by
    omega
  have unit : hexUnit ('0' :: '0' :: hexDigit (char.toNat / 16) :: hexDigit char.toNat :: rest) =
      .ok (char.toNat, rest) := by
    have digits : (['0', '0', hexDigit (char.toNat / 16), hexDigit char.toNat].mapM hexValue?) =
        some [0, 0, char.toNat / 16 % 16, char.toNat % 16] := by
      simp [zero, hexValue?_hexDigit]
    simp only [hexUnit, List.take_succ_cons, List.take_zero, digits, value, List.drop_succ_cons,
      List.drop_zero]
  simp only [unit16, unit]
  rw [if_neg (by omega), if_pos (by omega), Char.ofNat_toNat]

/-- An escaped character is scanned as the character. -/
theorem scanString_escape (char : Char) (content : List Char) (fuel : Nat) (rest : List Char) :
    scanString content true (fuel + 1) ((escape char).toList ++ rest) =
      scanString (char :: content) true fuel rest := by
  rw [escape]
  by_cases isQuote : char = '"'
  · subst isQuote
    rfl
  by_cases backslash : char = '\\'
  · subst backslash
    rfl
  by_cases backspace : char = '\x08'
  · subst backspace
    rfl
  by_cases formFeed : char = '\x0c'
  · subst formFeed
    rfl
  by_cases newline : char = '\n'
  · subst newline
    rfl
  by_cases carriageReturn : char = '\r'
  · subst carriageReturn
    rfl
  by_cases tab : char = '\t'
  · subst tab
    rfl
  simp only [isQuote, backslash, backspace, formFeed, newline, carriageReturn, tab, if_false]
  by_cases control : char.toNat < 32
  · rw [if_pos control, String.toList_ofList]
    simp only [List.cons_append, List.nil_append]
    rw [scanString]
    simp [unit16_control control]
  · rw [if_neg control]
    have single : (char.toString).toList = [char] := by simp
    rw [single, List.cons_append, List.nil_append]
    simp only [scanString, isQuote, backslash, control, if_false]

/-- An escaped text is scanned as the text, up to the quote at its end. -/
theorem scanString_spelled (text : List Char) :
    ∀ (content rest : List Char) {fuel : Nat}, text.length < fuel →
      scanString content true fuel (text.flatMap (fun char => (escape char).toList) ++ '"' :: rest) =
        ⟨.string (some (String.ofList (content.reverse ++ text))), rest⟩ := by
  induction text with
  | nil =>
    intro content rest fuel enough
    obtain ⟨fuel, rfl⟩ : ∃ less, fuel = less + 1 := ⟨fuel - 1, by simp at enough; omega⟩
    rw [List.append_nil]
    rfl
  | cons char more ih =>
    intro content rest fuel enough
    obtain ⟨fuel, rfl⟩ : ∃ less, fuel = less + 1 := ⟨fuel - 1, by simp at enough; omega⟩
    rw [List.flatMap_cons, List.append_assoc, scanString_escape,
      ih (char :: content) rest (by simpa using enough), List.reverse_cons, List.append_assoc]
    rfl

theorem toList_foldl_append (f : Char → String) (text : List Char) :
    ∀ start : String, (text.foldl (fun written char => written ++ f char) start).toList =
      start.toList ++ text.flatMap fun char => (f char).toList := by
  induction text with
  | nil => simp
  | cons char more ih =>
    intro start
    rw [List.foldl_cons, ih, String.toList_append, List.flatMap_cons, List.append_assoc]

theorem toList_quote (text : String) :
    (quote text).toList =
      '"' :: text.toList.flatMap (fun char => (escape char).toList) ++ ['"'] := by
  rw [quote, String.foldl_eq_foldl_toList, String.toList_append, String.toList_append,
    toList_foldl_append]
  rfl

/-! ## Values -/

/-- A text that is scanned as a draft, whatever follows it. -/
structure Scans (text : List Char) (root : Draft) : Prop where
  head : ∃ char rest, text = char :: rest ∧ isBlank char = false ∧ char ≠ ']'
  scan : ∀ (fuel : Nat) (rest : List Char), 3 * text.length ≤ fuel → Stops rest →
    scanValue fuel (text ++ rest) = ⟨root, rest⟩

theorem Scans.afterBlanks {text : List Char} {root : Draft} (scans : Scans text root)
    (rest : List Char) : afterBlanks (text ++ rest) = text ++ rest := by
  obtain ⟨char, more, rfl, noBlank, _⟩ := scans.head
  simp [Draft.afterBlanks, noBlank]

def continued (texts : List (List Char)) : List Char := texts.flatMap fun text => ',' :: text

theorem stops_continued {close : Char} (bracket : isNumeralChar close = false)
    (texts : List (List Char)) (rest : List Char) : Stops (continued texts ++ close :: rest) := by
  cases texts with
  | nil => exact stops_cons bracket rest
  | cons text more => exact stops_cons rfl _

section Items

/-- An item is scanned, and the items after it. -/
theorem scanItems_first {text : List Char} {root : Draft} (scans : Scans text root) (fuel : Nat)
    (rest : List Char) :
    scanItems (fuel + 1) true (text ++ rest) =
      let item := scanValue fuel (text ++ rest)
      let (items, ending, after) := scanItems fuel false item.rest
      (item.root :: items, ending, after) := by
  have unchanged := scans.afterBlanks rest
  obtain ⟨char, more, rfl, noBlank, noBracket⟩ := scans.head
  rw [List.cons_append] at unchanged ⊢
  rw [scanItems, unchanged]
  simp only [if_true]

theorem scanItems_comma {text : List Char} {root : Draft} (scans : Scans text root) (fuel : Nat)
    (rest : List Char) :
    scanItems (fuel + 1) false (',' :: (text ++ rest)) =
      let item := scanValue fuel (text ++ rest)
      let (items, ending, after) := scanItems fuel false item.rest
      (item.root :: items, ending, after) := by
  have unchanged := scans.afterBlanks rest
  have comma : afterBlanks (',' :: (text ++ rest)) = ',' :: (text ++ rest) := rfl
  obtain ⟨char, more, rfl, noBlank, noBracket⟩ := scans.head
  rw [List.cons_append] at unchanged comma ⊢
  rw [scanItems, comma]
  simp [unchanged, noBracket]

variable (items : List Json)

theorem toList_compactItems (item : Json) :
    (Json.compactItems (item :: items)).toList =
      item.compact.toList ++ continued (items.map fun item => item.compact.toList) := by
  induction items generalizing item with
  | nil => simp [Json.compactItems, continued]
  | cons next more ih =>
    rw [Json.compactItems, String.toList_append, String.toList_append, ih next]
    simp [continued]

variable {root : Json → Draft}

/-- The items after the first one. -/
theorem scanItems_continued
    (each : ∀ item ∈ items, Scans item.compact.toList (root item)) (rest : List Char) :
    ∀ fuel : Nat,
      3 * (continued (items.map fun item => item.compact.toList)).length < fuel →
      scanItems fuel false
          (continued (items.map fun item => item.compact.toList) ++ ']' :: rest) =
        (items.map root, .closed, rest) := by
  induction items with
  | nil =>
    intro fuel enough
    obtain ⟨fuel, rfl⟩ : ∃ less, fuel = less + 1 := ⟨fuel - 1, by omega⟩
    rfl
  | cons item more ih =>
    intro fuel enough
    obtain ⟨fuel, rfl⟩ : ∃ less, fuel = less + 1 := ⟨fuel - 1, by omega⟩
    have scans := each item List.mem_cons_self
    have later := ih fun other member => each other (List.mem_cons_of_mem _ member)
    have split : continued ((item :: more).map fun item => item.compact.toList) =
        ',' :: (item.compact.toList ++ continued (more.map fun item => item.compact.toList)) := rfl
    rw [split] at enough ⊢
    simp only [List.length_cons, List.length_append] at enough
    rw [List.cons_append, List.append_assoc, scanItems_comma scans,
      scans.scan fuel _ (by omega) (stops_continued rfl _ _)]
    simp only [later fuel (by omega), List.map_cons]

/-- An array is scanned item by item. -/
theorem scans_array (each : ∀ item ∈ items, Scans item.compact.toList (root item)) :
    Scans (Json.array items).compact.toList (.array (items.map root) .closed) where
  head := ⟨'[', (Json.compactItems items ++ "]").toList, by simp [Json.compact], rfl, by decide⟩
  scan := by
    intro fuel rest enough stops
    have text : (Json.array items).compact.toList ++ rest =
        '[' :: ((Json.compactItems items).toList ++ ']' :: rest) := by
      simp [Json.compact]
    have length : (Json.array items).compact.toList.length =
        (Json.compactItems items).toList.length + 2 := by
      simp [Json.compact]
    rw [length] at enough
    obtain ⟨fuel, rfl⟩ : ∃ less, fuel = less + 2 := ⟨fuel - 2, by omega⟩
    have scanned : scanItems (fuel + 1) true ((Json.compactItems items).toList ++ ']' :: rest) =
        (items.map root, .closed, rest) := by
      cases items with
      | nil => rfl
      | cons item more =>
        have scans := each item List.mem_cons_self
        have later := fun other member => each other (List.mem_cons_of_mem item member)
        rw [toList_compactItems] at enough ⊢
        rw [List.length_append] at enough
        rw [List.append_assoc, scanItems_first scans,
          scans.scan fuel _ (by omega) (stops_continued rfl _ _)]
        simp only [scanItems_continued more later rest fuel (by omega), List.map_cons]
    rw [text]
    have opened : scanValue (fuel + 2) ('[' :: ((Json.compactItems items).toList ++ ']' :: rest)) =
        let (items, ending, after) :=
          scanItems (fuel + 1) true ((Json.compactItems items).toList ++ ']' :: rest)
        ⟨.array items ending, after⟩ := rfl
    rw [opened, scanned]

end Items

section Members

def spelled (name : String) : List Char := name.toList.flatMap fun char => (escape char).toList

def memberText (entry : String × Json) : List Char :=
  '"' :: (spelled entry.1 ++ '"' :: ':' :: entry.2.compact.toList)

theorem length_escape (char : Char) : 1 ≤ (escape char).toList.length := by
  rw [escape]
  split_ifs <;> simp

theorem length_spelled (name : String) : name.toList.length ≤ (spelled name).length := by
  rw [spelled]
  induction name.toList with
  | nil => exact Nat.zero_le _
  | cons char more ih =>
    have positive := length_escape char
    rw [List.flatMap_cons, List.length_append, List.length_cons]
    omega

theorem scanName (name : String) (rest : List Char) :
    scanString [] true ((spelled name ++ '"' :: rest).length + 1) (spelled name ++ '"' :: rest) =
      ⟨.string (some name), rest⟩ := by
  have enough : name.toList.length < (spelled name ++ '"' :: rest).length + 1 := by
    have := length_spelled name
    rw [List.length_append]
    omega
  have scanned := scanString_spelled name.toList [] rest enough
  rwa [List.reverse_nil, List.nil_append, String.ofList_toList] at scanned

theorem scanMember_entry {root : Draft} {entry : String × Json}
    (scans : Scans entry.2.compact.toList root)
    {fuel : Nat} (enough : 3 * entry.2.compact.toList.length ≤ fuel) {rest : List Char}
    (stops : Stops rest) :
    scanMember (fuel + 1) (spelled entry.1 ++ '"' :: ':' :: (entry.2.compact.toList ++ rest)) =
      let (members, ending, after) := scanMembers fuel false rest
      ((.string (some entry.1), root) :: members, ending, after) := by
  have colon : afterBlanks (':' :: (entry.2.compact.toList ++ rest)) =
      ':' :: (entry.2.compact.toList ++ rest) := rfl
  rw [scanMember, scanName]
  simp only [colon, scans.scan fuel rest enough stops]

variable (members : List (String × Json))

theorem toList_compactMembers (entry : String × Json) :
    (Json.compactMembers (entry :: members)).toList =
      memberText entry ++ continued (members.map memberText) := by
  induction members generalizing entry with
  | nil => simp [Json.compactMembers, continued, memberText, toList_quote, spelled]
  | cons next more ih =>
    rw [Json.compactMembers, String.toList_append, String.toList_append, ih next]
    simp [continued, memberText, toList_quote, spelled]

variable {root : Json → Draft}

/-- The members after the first one. -/
theorem scanMembers_continued
    (each : ∀ entry ∈ members, Scans entry.2.compact.toList (root entry.2)) (rest : List Char) :
    ∀ fuel : Nat, 3 * (continued (members.map memberText)).length < fuel →
      scanMembers fuel false (continued (members.map memberText) ++ '\x7d' :: rest) =
        (members.map fun entry => (.string (some entry.1), root entry.2), .closed, rest) := by
  induction members with
  | nil =>
    intro fuel enough
    obtain ⟨fuel, rfl⟩ : ∃ less, fuel = less + 1 := ⟨fuel - 1, by omega⟩
    rfl
  | cons entry more ih =>
    intro fuel enough
    have scans := each entry List.mem_cons_self
    have later := ih fun other member => each other (List.mem_cons_of_mem _ member)
    have split : continued ((entry :: more).map memberText) ++ '\x7d' :: rest =
        ',' :: '"' :: (spelled entry.1 ++ '"' :: ':' ::
          (entry.2.compact.toList ++ (continued (more.map memberText) ++ '\x7d' :: rest))) := by
      simp [continued, memberText]
    have length : (continued ((entry :: more).map memberText)).length =
        (spelled entry.1).length + entry.2.compact.toList.length +
          (continued (more.map memberText)).length + 4 := by
      simp [continued, memberText]
      omega
    rw [length] at enough
    obtain ⟨fuel, rfl⟩ : ∃ less, fuel = less + 2 := ⟨fuel - 2, by omega⟩
    rw [split]
    have comma (text : List Char) :
        scanMembers (fuel + 2) false (',' :: '"' :: text) = scanMember (fuel + 1) text := rfl
    rw [comma, scanMember_entry scans (by omega) (stops_continued rfl _ _)]
    simp only [later fuel (by omega), List.map_cons]

/-- The members after an opening brace. -/
theorem scanMembers_opened
    (each : ∀ entry ∈ members, Scans entry.2.compact.toList (root entry.2)) {fuel : Nat}
    (enough : 3 * (Json.compactMembers members).toList.length ≤ fuel) (rest : List Char) :
    scanMembers (fuel + 2) true ((Json.compactMembers members).toList ++ '\x7d' :: rest) =
      (members.map fun entry => (.string (some entry.1), root entry.2), .closed, rest) := by
  cases members with
  | nil => rfl
  | cons entry more =>
    have scans := each entry List.mem_cons_self
    have later := fun other member => each other (List.mem_cons_of_mem entry member)
    rw [toList_compactMembers] at enough ⊢
    have split : memberText entry ++ continued (more.map memberText) ++ '\x7d' :: rest =
        '"' :: (spelled entry.1 ++ '"' :: ':' ::
          (entry.2.compact.toList ++ (continued (more.map memberText) ++ '\x7d' :: rest))) := by
      simp [memberText]
    have length : (memberText entry ++ continued (more.map memberText)).length =
        (spelled entry.1).length + entry.2.compact.toList.length +
          (continued (more.map memberText)).length + 3 := by
      simp [memberText]
      omega
    rw [length] at enough
    have first (text : List Char) :
        scanMembers (fuel + 2) true ('"' :: text) = scanMember (fuel + 1) text := rfl
    rw [split, first, scanMember_entry scans (by omega) (stops_continued rfl _ _)]
    simp only [scanMembers_continued more later rest fuel (by omega), List.map_cons]

/-- An object is scanned member by member. -/
theorem scans_object (each : ∀ entry ∈ members, Scans entry.2.compact.toList (root entry.2)) :
    Scans (Json.object members).compact.toList
      (.object (members.map fun entry => (.string (some entry.1), root entry.2)) .closed) where
  head := ⟨'\x7b', (Json.compactMembers members ++ "\x7d").toList, by simp [Json.compact], rfl,
    by decide⟩
  scan := by
    intro fuel rest enough stops
    have text : (Json.object members).compact.toList ++ rest =
        '\x7b' :: ((Json.compactMembers members).toList ++ '\x7d' :: rest) := by
      simp [Json.compact]
    have length : (Json.object members).compact.toList.length =
        (Json.compactMembers members).toList.length + 2 := by
      simp [Json.compact]
    rw [length] at enough
    obtain ⟨fuel, rfl⟩ : ∃ less, fuel = less + 3 := ⟨fuel - 3, by omega⟩
    have opened :
        scanValue (fuel + 3) ('\x7b' :: ((Json.compactMembers members).toList ++ '\x7d' :: rest)) =
          let (members, ending, after) :=
            scanMembers (fuel + 2) true ((Json.compactMembers members).toList ++ '\x7d' :: rest)
          ⟨.object members ending, after⟩ := rfl
    rw [text, opened, scanMembers_opened members each (by omega)]

end Members

/-! ## Whole values -/

theorem Denotes.head {text : List Char} {number : Number} (denotes : Denotes text number) :
    ∃ char rest, text = char :: rest ∧ isBlank char = false ∧ char ≠ ']' := by
  obtain ⟨negative, digits, literal, rfl, numeral, _⟩ := denotes
  obtain ⟨digit, rest, rfl, isDigit⟩ := numeral.head_isDigit
  cases negative with
  | true => exact ⟨'-', digit :: rest, rfl, rfl, by decide⟩
  | false =>
    refine ⟨digit, rest, rfl, isDigit_not_blank isDigit, ?_⟩
    rintro rfl
    exact absurd isDigit (by decide)

/-- A word is scanned as what it stands for. -/
theorem scans_word {word : String} {root : Draft} {first : Char} (others : List Char)
    (split : word.toList = first :: others) (noBlank : isBlank first = false)
    (noBracket : first ≠ ']')
    (scanned : ∀ fuel rest, scanValue (fuel + 1) (first :: (others ++ rest)) = ⟨root, rest⟩) :
    Scans word.toList root where
  head := ⟨first, others, split, noBlank, noBracket⟩
  scan := by
    intro fuel rest enough _
    rw [split] at enough ⊢
    rw [List.length_cons] at enough
    obtain ⟨fuel, rfl⟩ : ∃ less, fuel = less + 1 := ⟨fuel - 1, by omega⟩
    exact scanned fuel rest

end Draft

mutual

def Json.restate (restated : Float → Float) : Json → Json
  | .number (.float value) => .number (.float (restated value))
  | .array items => .array (restateItems restated items)
  | .object members => .object (restateMembers restated members)
  | value => value

def Json.restateItems (restated : Float → Float) : List Json → List Json
  | [] => []
  | item :: rest => item.restate restated :: restateItems restated rest

def Json.restateMembers (restated : Float → Float) : List (String × Json) → List (String × Json)
  | [] => []
  | (name, value) :: rest => (name, value.restate restated) :: restateMembers restated rest

end

namespace Json

variable (restated : Float → Float)

@[simp]
theorem restate_array (items : List Json) :
    (Json.array items).restate restated = .array (items.map (restate restated)) := by
  rw [restate]
  congr 1
  induction items with
  | nil => rfl
  | cons item rest ih => rw [restateItems, List.map_cons, ih]

@[simp]
theorem restate_object (members : List (String × Json)) :
    (Json.object members).restate restated =
      .object (members.map fun entry => (entry.1, entry.2.restate restated)) := by
  rw [restate]
  congr 1
  induction members with
  | nil => rfl
  | cons entry rest ih => rw [restateMembers, List.map_cons, ih]

end Json

namespace Draft

theorem ofJson_array (items : List Json) :
    ofJson (.array items) = .array (items.map ofJson) .closed := by
  rw [ofJson]
  congr 1
  induction items with
  | nil => rfl
  | cons item rest ih => rw [ofItems, List.map_cons, ih]

theorem ofJson_object (members : List (String × Json)) :
    ofJson (.object members) =
      .object (members.map fun entry => (.string (some entry.1), ofJson entry.2)) .closed := by
  rw [ofJson]
  congr 1
  induction members with
  | nil => rfl
  | cons entry rest ih => rw [ofMembers, List.map_cons, ih]

/-- A value whose integers are what their numerals denote, and whose doubles are restated as what
their numerals denote. -/
inductive Legible (restated : Float → Float) : Json → Prop where
  | null : Legible restated .null
  | bool (value : Bool) : Legible restated (.bool value)
  | integer {value : Int}
      (denotes : Denotes (Json.numeral (.integer value)).toList (.integer value)) :
      Legible restated (.integer value)
  | double {value : Float}
      (denotes : Denotes (Json.numeral (.float value)).toList (.float (restated value))) :
      Legible restated (.number (.float value))
  | string (text : String) : Legible restated (.string text)
  | array {items : List Json} (each : ∀ item ∈ items, Legible restated item) :
      Legible restated (.array items)
  | object {members : List (String × Json)} (each : ∀ entry ∈ members, Legible restated entry.2) :
      Legible restated (.object members)

theorem Denotes.scans {text : List Char} {number : Number} (denotes : Denotes text number) :
    Scans text (.number (some number)) := by
  refine ⟨denotes.head, fun fuel rest enough stops => ?_⟩
  obtain ⟨char, more, spelled, _⟩ := denotes.head
  rw [spelled, List.length_cons] at enough
  obtain ⟨fuel, rfl⟩ : ∃ less, fuel = less + 1 := ⟨fuel - 1, by omega⟩
  exact scanValue_denotes denotes stops fuel

theorem scans_string (text : String) :
    Scans (Json.string text).compact.toList (.string (some text)) := by
  refine ⟨⟨'"', _, by rw [Json.compact, toList_quote]; rfl, rfl, by decide⟩, ?_⟩
  intro fuel rest enough _
  have split : (Json.string text).compact.toList ++ rest = '"' :: (spelled text ++ '"' :: rest) := by
    simp [Json.compact, toList_quote, spelled]
  have length : (Json.string text).compact.toList.length = (spelled text).length + 2 := by
    simp [Json.compact, toList_quote, spelled]
  rw [length] at enough
  obtain ⟨fuel, rfl⟩ : ∃ less, fuel = less + 1 := ⟨fuel - 1, by omega⟩
  rw [split]
  exact scanName text rest

/-- The text of a value is scanned as the value restated. -/
theorem Legible.scans {restated : Float → Float} {value : Json} (legible : Legible restated value) :
    Scans value.compact.toList (ofJson (value.restate restated)) := by
  induction legible with
  | null => exact scans_word ['u', 'l', 'l'] rfl rfl (by decide) fun _ _ => rfl
  | bool value =>
    cases value with
    | true => exact scans_word ['r', 'u', 'e'] rfl rfl (by decide) fun _ _ => rfl
    | false => exact scans_word ['a', 'l', 's', 'e'] rfl rfl (by decide) fun _ _ => rfl
  | integer denotes => exact denotes.scans
  | double denotes => exact denotes.scans
  | string text => exact scans_string text
  | array each ih =>
    have scanned := scans_array _ ih
    rwa [Json.restate_array, ofJson_array, List.map_map]
  | object each ih =>
    have scanned := @scans_object _ (fun value => ofJson (value.restate restated)) ih
    rwa [Json.restate_object, ofJson_object, List.map_map]

/-- A reader of a text reads what it would make of the value restated. -/
theorem Legible.readText {α : Type} {restated : Float → Float} {value : Json}
    (legible : Legible restated value) (reader : Reader α) :
    readText reader value.compact = reader (ofJson (value.restate restated)) := by
  have scanned := legible.scans.scan (3 * value.compact.toList.length + 3) [] (by omega) stops_nil
  rw [List.append_nil] at scanned
  rw [Headroom.readText, scan, scanned]
  simp only [Scanned.read]
  cases reader (ofJson (value.restate restated)) <;> rfl

/-- What is restated as itself is scanned as itself. -/
theorem Legible.restate_id {value : Json} (legible : Legible id value) :
    value.restate id = value := by
  induction legible with
  | array each ih => rw [Json.restate_array, List.map_congr_left ih, List.map_id']
  | object each ih =>
    rw [Json.restate_object, List.map_congr_left fun entry member => congrArg _ (ih entry member),
      List.map_id']
  | _ => rfl

end Draft

end Headroom
