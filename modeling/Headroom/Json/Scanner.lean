import Headroom.Decimal.Literal
import Headroom.Json.Draft

/-!
# Scanning JSON texts

A text is scanned into a draft in one pass from left to right.  Where the text
breaks off, the draft records the fault and scanning stops.
-/

namespace Headroom

/-- A scanned text: its value, and what follows the value. -/
structure Scanned where
  root : Draft
  rest : List Char

namespace Draft

/-- The blanks that may stand between the tokens of a document. -/
def isBlank (char : Char) : Bool :=
  char = ' ' || char = '\n' || char = '\t' || char = '\r'

def afterBlanks (text : List Char) : List Char := text.dropWhile isBlank

/-- The value of a hexadecimal digit in either case. -/
def hexValue? (char : Char) : Option Nat :=
  if '0' ≤ char ∧ char ≤ '9' then some (char.toNat - '0'.toNat)
  else if 'a' ≤ char ∧ char ≤ 'f' then some (char.toNat - 'a'.toNat + 10)
  else if 'A' ≤ char ∧ char ≤ 'F' then some (char.toNat - 'A'.toNat + 10)
  else none

/-- The value of four hexadecimal digits and the text after them.  Fewer than four bytes
are a text that ends too early, other characters among them are malformed. -/
def hexUnit (text : List Char) : Except Fault (Nat × List Char) :=
  match text.take 4 |>.mapM hexValue? with
  | some [first, second, third, fourth] =>
    .ok (((first * 16 + second) * 16 + third) * 16 + fourth, text.drop 4)
  | _ => .error (if (String.ofList (text.take 4)).utf8ByteSize < 4 then .cutShort else .malformed)

/-- The character that a one-letter escape stands for. -/
def shortEscape? : Char → Option Char
  | '"' => some '"'
  | '\\' => some '\\'
  | '/' => some '/'
  | 'b' => some '\x08'
  | 'f' => some '\x0c'
  | 'n' => some '\n'
  | 'r' => some '\r'
  | 't' => some '\t'
  | _ => none

/-- What a sixteen-bit escape contributes to a string. -/
inductive Unit16 where
  /-- A character; the text goes on after all its escapes. -/
  | char (value : Char) (rest : List Char)
  /-- A surrogate without its partner. -/
  | unpaired (rest : List Char)
  /-- The text is at fault. -/
  | fault (fault : Fault)

/-- Reads a sixteen-bit escape after its letter, and the second half of a pair. -/
def unit16 (text : List Char) : Unit16 :=
  match hexUnit text with
  | .error fault => .fault fault
  | .ok (unit, rest) =>
    if 0xDC00 ≤ unit ∧ unit ≤ 0xDFFF then .unpaired rest
    else if unit < 0xD800 ∨ 0xDBFF < unit then .char (Char.ofNat unit) rest
    else
      match rest with
      | [] => .fault .cutShort
      | ['\\'] => .fault .cutShort
      | '\\' :: 'u' :: second =>
        match hexUnit second with
        | .error fault => .fault fault
        | .ok (trailing, after) =>
          if 0xDC00 ≤ trailing ∧ trailing ≤ 0xDFFF then
            .char (Char.ofNat ((unit - 0xD800) * 0x400 + (trailing - 0xDC00) + 0x10000)) after
          else .unpaired rest
      | _ => .unpaired rest

/-- A string that ends in a fault; one with an unpaired surrogate was malformed before. -/
def brokenString (sound : Bool) (fault : Fault) : Scanned :=
  ⟨.broken (if sound then fault else .malformed) fault, []⟩

/-- Scans a string after its opening quote.  `content` holds the characters so far, newest
first; `sound` says that every surrogate so far was paired. -/
def scanString (content : List Char) (sound : Bool) : Nat → List Char → Scanned
  | 0, _ => brokenString sound .malformed
  | _, [] => brokenString sound .cutShort
  | fuel + 1, char :: rest =>
    if char = '"' then
      ⟨.string (if sound then some (String.ofList content.reverse) else none), rest⟩
    else if char = '\\' then
      match rest with
      | [] => brokenString sound .cutShort
      | 'u' :: digits =>
        match unit16 digits with
        | .char value after => scanString (value :: content) sound fuel after
        | .unpaired after => scanString content false fuel after
        | .fault fault => brokenString sound fault
      | letter :: after =>
        match shortEscape? letter with
        | some value => scanString (value :: content) sound fuel after
        | none => brokenString sound .malformed
    else if char.toNat < 32 then brokenString sound .malformed
    else scanString (char :: content) sound fuel rest

/-- A numeral that breaks off: at the end of the text a reader sees it cut short. -/
def brokenNumber (rest : List Char) : Scanned :=
  ⟨.broken (if rest.isEmpty then .cutShort else .malformed) .malformed, []⟩

/-- The exponent of a numeral, if one follows. -/
def scanExponent (literal : Decimal.Literal) (text : List Char) :
    Except Scanned (Decimal.Literal × List Char) :=
  match text with
  | mark :: after =>
    if mark = 'e' ∨ mark = 'E' then
      let (negative, digits) :=
        match after with
        | '-' :: rest => (true, rest)
        | '+' :: rest => (false, rest)
        | rest => (false, rest)
      let power := digits.takeWhile Char.isDigit
      let rest := digits.dropWhile Char.isDigit
      if power.isEmpty then .error (brokenNumber rest)
      else .ok ({ literal with exponent := some (negative, power) }, rest)
    else .ok (literal, text)
  | [] => .ok (literal, text)

/-- The fraction of a numeral, if one follows. -/
def scanFraction (literal : Decimal.Literal) (text : List Char) :
    Except Scanned (Decimal.Literal × List Char) :=
  match text with
  | '.' :: after =>
    let places := after.takeWhile Char.isDigit
    let rest := after.dropWhile Char.isDigit
    if places.isEmpty then .error (brokenNumber rest)
    else .ok ({ literal with fraction := some places }, rest)
  | _ => .ok (literal, text)

/-- The number that a numeral denotes; nothing when it is too large. -/
def numberOf? (literal : Decimal.Literal) : Option Number :=
  match literal.integer? with
  | some value => some (.integer value)
  | none => literal.float?.map .float

def scanNumber (negative : Bool) (text : List Char) : Scanned :=
  let whole := text.takeWhile Char.isDigit
  let after := text.dropWhile Char.isDigit
  match whole with
  | [] => brokenNumber after
  | '0' :: _ :: _ => ⟨.broken .malformed .malformed, []⟩
  | _ =>
    match scanFraction ⟨negative, whole, none, none⟩ after with
    | .error stopped => stopped
    | .ok (withFraction, rest) =>
      match scanExponent withFraction rest with
      | .error stopped => stopped
      | .ok (literal, rest) => ⟨.number (numberOf? literal), rest⟩

/-- Scans the rest of a word whose first letter was seen. -/
def scanWord (value : Draft) : List Char → List Char → Scanned
  | [], rest => ⟨value, rest⟩
  | _ :: _, [] => ⟨.broken .cutShort .cutShort, []⟩
  | expected :: word, char :: rest =>
    if char = expected then scanWord value word rest
    else ⟨.broken .malformed .malformed, []⟩

def fails (fault : Fault) : Ending := .broken fault fault

mutual

def scanValue : Nat → List Char → Scanned
  | 0, _ => ⟨.broken .malformed .malformed, []⟩
  | fuel + 1, text =>
    match afterBlanks text with
    | [] => ⟨.broken .cutShort .cutShort, []⟩
    | '"' :: rest => scanString [] true (rest.length + 1) rest
    | '[' :: rest =>
      let (items, ending, rest) := scanItems fuel true rest
      ⟨.array items ending, rest⟩
    | '\x7b' :: rest =>
      let (members, ending, rest) := scanMembers fuel true rest
      ⟨.object members ending, rest⟩
    | 'n' :: rest => scanWord .null "ull".toList rest
    | 't' :: rest => scanWord (.bool true) "rue".toList rest
    | 'f' :: rest => scanWord (.bool false) "alse".toList rest
    | '-' :: rest => scanNumber true rest
    | char :: rest =>
      if char.isDigit then scanNumber false (char :: rest)
      else ⟨.broken .malformed .malformed, []⟩

/-- Scans the items of an array; `first` says that none was scanned yet. -/
def scanItems : Nat → Bool → List Char → List Draft × Ending × List Char
  | 0, _, _ => ([], fails .malformed, [])
  | fuel + 1, first, text =>
    match afterBlanks text with
    | [] => ([], fails .cutShort, [])
    | ']' :: rest => ([], .closed, rest)
    | char :: rest =>
      if first then
        let item := scanValue fuel (char :: rest)
        let (items, ending, after) := scanItems fuel false item.rest
        (item.root :: items, ending, after)
      else if char = ',' then
        match afterBlanks rest with
        | [] => ([], .broken .cutShort .malformed, [])
        | ']' :: _ => ([], fails .malformed, [])
        | next =>
          let item := scanValue fuel next
          let (items, ending, after) := scanItems fuel false item.rest
          (item.root :: items, ending, after)
      else ([], fails .malformed, [])

/-- Scans the members of an object; `first` says that none was scanned yet. -/
def scanMembers : Nat → Bool → List Char → List (Draft × Draft) × Ending × List Char
  | 0, _, _ => ([], fails .malformed, [])
  | fuel + 1, first, text =>
    match afterBlanks text with
    | [] => ([], fails .cutShort, [])
    | '\x7d' :: rest => ([], .closed, rest)
    | char :: rest =>
      if first then
        if char = '"' then scanMember fuel rest
        else ([], .broken .malformed (scanValue fuel (char :: rest)).root.mismatch, [])
      else if char = ',' then
        match afterBlanks rest with
        | [] => ([], .broken .cutShort .malformed, [])
        | '"' :: after => scanMember fuel after
        | _ => ([], fails .malformed, [])
      else ([], fails .malformed, [])

/-- Scans a member after the opening quote of its name, and the members after it. -/
def scanMember : Nat → List Char → List (Draft × Draft) × Ending × List Char
  | 0, _ => ([], fails .malformed, [])
  | fuel + 1, text =>
    let name := scanString [] true (text.length + 1) text
    match afterBlanks name.rest with
    | ':' :: rest =>
      let value := scanValue fuel rest
      let (members, ending, after) := scanMembers fuel false value.rest
      ((name.root, value.root) :: members, ending, after)
    | [] => ([(name.root, .broken .cutShort .cutShort)], fails .cutShort, [])
    | _ => ([(name.root, .broken .malformed .malformed)], fails .malformed, [])

end

def scan (text : String) : Scanned :=
  let characters := text.toList
  scanValue (3 * characters.length + 3) characters

end Draft

/-- Reads a text that holds one value and nothing else but blanks. -/
def Scanned.read {α : Type} (scanned : Scanned) (reader : Draft → Except Fault α) :
    Except Fault α := do
  let value ← reader scanned.root
  if (Draft.afterBlanks scanned.rest).isEmpty then .ok value else .error .malformed

def readText {α : Type} (reader : Draft → Except Fault α) (text : String) : Except Fault α :=
  (Draft.scan text).read reader

end Headroom
