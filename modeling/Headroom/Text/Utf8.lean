/-!
# UTF-8

Texts as octets and back.  Decoding takes one character after the other; octets
that begin no character are refused, or replaced where a text is wanted in any
case.
-/

namespace Headroom.Text

def encodeChar (char : Char) : List UInt8 :=
  let code := char.toNat
  if code < 0x80 then [.ofNat code]
  else if code < 0x800 then [.ofNat (0xC0 + code / 64), .ofNat (0x80 + code % 64)]
  else if code < 0x10000 then
    [.ofNat (0xE0 + code / 4096), .ofNat (0x80 + code / 64 % 64), .ofNat (0x80 + code % 64)]
  else
    [.ofNat (0xF0 + code / 262144), .ofNat (0x80 + code / 4096 % 64),
      .ofNat (0x80 + code / 64 % 64), .ofNat (0x80 + code % 64)]

def octets (text : String) : List UInt8 := text.toList.flatMap encodeChar

/-- What the first octet of a character says: its share of the code point, the number of
octets that follow, and the bounds of the next one. -/
structure Lead where
  value : Nat
  following : Nat
  least : Nat
  greatest : Nat

/-- Reads the first octet of a character of several octets. -/
def lead? (octet : UInt8) : Option Lead :=
  let code := octet.toNat
  if code < 0xC2 then none
  else if code < 0xE0 then some ⟨code - 0xC0, 1, 0x80, 0xBF⟩
  else if code = 0xE0 then some ⟨0, 2, 0xA0, 0xBF⟩
  else if code = 0xED then some ⟨0xD, 2, 0x80, 0x9F⟩
  else if code < 0xF0 then some ⟨code - 0xE0, 2, 0x80, 0xBF⟩
  else if code = 0xF0 then some ⟨0, 3, 0x90, 0xBF⟩
  else if code < 0xF4 then some ⟨code - 0xF0, 3, 0x80, 0xBF⟩
  else if code = 0xF4 then some ⟨4, 3, 0x80, 0x8F⟩
  else none

/-- Takes the octets that follow the first one.  The result is the code point, or nothing
when an octet is out of bounds, and the octets that were not used. -/
def follow (lead : Lead) : List UInt8 → Option Nat × List UInt8
  | [] => (if lead.following = 0 then some lead.value else none, [])
  | octet :: rest =>
    match lead.following with
    | 0 => (some lead.value, octet :: rest)
    | following + 1 =>
      if lead.least ≤ octet.toNat ∧ octet.toNat ≤ lead.greatest then
        follow ⟨lead.value * 64 + octet.toNat % 64, following, 0x80, 0xBF⟩ rest
      else (none, octet :: rest)

/-- Takes the first character, or nothing in its place, and returns the rest. -/
def takeChar (octet : UInt8) (rest : List UInt8) : Option Char × List UInt8 :=
  if octet.toNat < 0x80 then (some (Char.ofNat octet.toNat), rest)
  else
    match lead? octet with
    | none => (none, rest)
    | some lead =>
      let (code, after) := follow lead rest
      (code.map Char.ofNat, after)

theorem follow_length_le (lead : Lead) (octets : List UInt8) :
    (follow lead octets).2.length ≤ octets.length := by
  induction octets generalizing lead with
  | nil => simp [follow]
  | cons octet rest ih =>
    unfold follow
    split
    · simp
    · split
      · exact Nat.le_succ_of_le (ih _)
      · simp

theorem takeChar_length_le (octet : UInt8) (rest : List UInt8) :
    (takeChar octet rest).2.length ≤ rest.length := by
  unfold takeChar
  split
  · simp
  · split
    · simp
    · exact follow_length_le _ rest

/-- The characters of octets, with nothing in the place of each run that is no character. -/
def decode : List UInt8 → List (Option Char)
  | [] => []
  | octet :: rest => (takeChar octet rest).1 :: decode (takeChar octet rest).2
termination_by octets => octets.length
decreasing_by exact Nat.lt_succ_of_le (takeChar_length_le octet rest)

/-- The text of octets, if they are all characters. -/
def ofOctets? (octets : List UInt8) : Option String := (decode octets).mapM id |>.map String.ofList

/-- The text of octets, with a replacement for each run that is no character. -/
def ofOctets (octets : List UInt8) : String :=
  String.ofList ((decode octets).map fun char => char.getD (Char.ofNat 0xFFFD))

end Headroom.Text
