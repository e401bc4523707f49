import Headroom.Text.Utf8

/-!
# Percent encoding

Octets that have no place in an address are written as a percent sign with two
hexadecimal digits.  Forms write a space as a plus sign instead.
-/

namespace Headroom.Percent

def digit (value : Nat) : Char :=
  if value < 10 then Char.ofNat ('0'.toNat + value) else Char.ofNat ('A'.toNat + (value - 10))

/-- The value of a hexadecimal digit in either case. -/
def digitValue? (char : Char) : Option Nat :=
  if '0' ≤ char ∧ char ≤ '9' then some (char.toNat - '0'.toNat)
  else if 'a' ≤ char ∧ char ≤ 'f' then some (char.toNat - 'a'.toNat + 10)
  else if 'A' ≤ char ∧ char ≤ 'F' then some (char.toNat - 'A'.toNat + 10)
  else none

/-- An octet as a percent sign and two digits. -/
def escape (octet : UInt8) : List Char :=
  ['%', digit (octet.toNat / 16), digit (octet.toNat % 16)]

/-- The octets of a text in which escapes stand for octets.  A percent sign without two
digits stands for itself. -/
def unescape : List Char → List UInt8
  | '%' :: first :: second :: rest =>
    match digitValue? first, digitValue? second with
    | some upper, some lower => .ofNat (upper * 16 + lower) :: unescape rest
    | _, _ => .ofNat 0x25 :: unescape (first :: second :: rest)
  | char :: rest => Text.encodeChar char ++ unescape rest
  | [] => []

/-- The text that an escaped text stands for, if the octets are one. -/
def decode? (text : String) : Option String := Text.ofOctets? (unescape text.toList)

/-- Whether a character stands for itself in a form. -/
def isFormPlain (char : Char) : Bool :=
  char.isAlphanum || char = '*' || char = '-' || char = '.' || char = '_'

def formChar (char : Char) : List Char :=
  if char = ' ' then ['+']
  else if isFormPlain char then [char]
  else (Text.encodeChar char).flatMap escape

def form (text : String) : String := String.ofList (text.toList.flatMap formChar)

/-- A text as one segment of a path: as in a form, with spaces escaped too. -/
def segment (text : String) : String :=
  String.ofList ((form text).toList.flatMap fun char => if char = '+' then escape 0x20 else [char])

/-- The text of a part of a form, whatever its octets are. -/
def formText (part : List Char) : String :=
  Text.ofOctets (unescape (part.map fun char => if char = '+' then ' ' else char))

/-- Cuts a list at every occurrence of a separator. -/
def cut (separator : Char) : List Char → List (List Char)
  | [] => [[]]
  | char :: rest =>
    if char = separator then [] :: cut separator rest
    else
      match cut separator rest with
      | piece :: others => (char :: piece) :: others
      | [] => [[char]]

/-- The name and the value of a part of a form; without an equals sign the value is empty. -/
def pair (part : List Char) : String × String :=
  (formText (part.takeWhile (· != '=')), formText ((part.dropWhile (· != '=')).drop 1))

/-- The names and values of a form, empty parts left out. -/
def pairs (text : String) : List (String × String) :=
  ((cut '&' text.toList).filter fun part => !part.isEmpty).map pair

def formOf (fields : List (String × String)) : String :=
  String.intercalate "&" (fields.map fun field => form field.1 ++ "=" ++ form field.2)

end Headroom.Percent
