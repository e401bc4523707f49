import Headroom.Domain.Name
import Headroom.Http.Percent

/-!
# Hosts

A host is a domain name, an address of four numbers, or an address of eight pieces
in brackets.  Schemes that know nothing of domain names take any other text too.
-/

namespace Headroom.Host

/-- Whether a character has no place in any host. -/
def isForbidden (char : Char) : Bool :=
  char.toNat = 0 || "\t\n\r #/:<>?@[\\]^|".toList.contains char

/-- A number in decimal, or in octal or hexadecimal after the usual marks. -/
def number? (text : List Char) : Option Nat :=
  let inBase := fun (base : Nat) (digits : List Char) =>
    digits.foldlM (fun value digit =>
      (Percent.digitValue? digit).bind fun next =>
        if next < base then some (value * base + next) else none) 0
  match text with
  | [] => none
  | '0' :: 'x' :: digits => inBase 16 digits
  | '0' :: digit :: digits => inBase 8 (digit :: digits)
  | digits => inBase 10 digits

/-- The parts of a domain between its dots, without an empty one at the end. -/
def parts (domain : List Char) : List (List Char) :=
  let parts := Percent.cut '.' domain
  match parts.reverse with
  | [] :: before :: earlier => (before :: earlier).reverse
  | _ => parts

/-- Whether a domain must be read as an address of four numbers. -/
def endsInNumber (domain : List Char) : Bool :=
  match (parts domain).reverse with
  | last :: _ =>
    (!last.isEmpty && last.all Char.isDigit) ||
      (last.take 2 == ['0', 'x'] && (number? last).isSome)
  | [] => false

/-- The address of up to four numbers; the last one fills all the octets that are left. -/
def ofNumbers? (domain : List Char) : Option String := do
  let numbers ← (parts domain).mapM number?
  let last ← numbers.getLast?
  let before := numbers.dropLast
  if 4 < numbers.length ∨ before.any (255 < ·) ∨ Nat.pow 256 (4 - before.length) ≤ last then none
  else
    let shifted := before.zipIdx.map fun (number, place) => number * Nat.pow 256 (3 - place)
    let value := shifted.foldl (· + ·) last
    some (String.intercalate "." ([3, 2, 1, 0].map fun place =>
      toString (value / Nat.pow 256 place % 256)))

/-- Whether a text is an octet in decimal, without needless zeros. -/
def isOctet (text : List Char) : Bool :=
  match text with
  | [] => false
  | ['0'] => true
  | '0' :: _ => false
  | digits => digits.all Char.isDigit && (number? digits).any (· ≤ 255)

/-- Whether a text is one piece of an address in brackets. -/
def isPiece (text : List Char) : Bool :=
  0 < text.length && text.length ≤ 4 && text.all fun char => (Percent.digitValue? char).isSome

/-- The number of pieces that the last part of an address in brackets stands for, which may be an
address of four numbers. -/
def lastCount? (text : List Char) : Option Nat :=
  let octets := Percent.cut '.' text
  if isPiece text then some 1
  else if octets.length = 4 ∧ octets.all isOctet then some 2
  else none

/-- The number of pieces between the colons of a text. -/
def pieceCount? (isLast : Bool) (text : List Char) : Option Nat :=
  if text.isEmpty then some 0
  else
    let pieces := Percent.cut ':' text
    let last := pieces.getLast?.bind fun piece =>
      if isLast then lastCount? piece else if isPiece piece then some 1 else none
    if pieces.dropLast.all isPiece then last.map (pieces.length - 1 + ·) else none

/-- Cuts a text at the first two colons in a row. -/
def splitDouble : List Char → List Char → List Char × Option (List Char)
  | before, [] => (before.reverse, none)
  | before, ':' :: ':' :: rest => (before.reverse, some rest)
  | before, char :: rest => splitDouble (char :: before) rest

/-- Whether a text is an address of eight pieces, of which one run of zeros may be left out. -/
def isPieces (text : List Char) : Bool :=
  match splitDouble [] text with
  | (whole, none) => pieceCount? true whole == some 8
  | (before, some after) =>
    match pieceCount? false before, pieceCount? true after with
    | some first, some second => first + second ≤ 7
    | _, _ => false

def ofBrackets? (inner : List Char) : Option String :=
  if inner.getLast? = some ']' ∧ isPieces inner.dropLast then
    some (String.ofList ('[' :: inner)).toLower
  else none

/-- The host of a scheme that knows domain names.  There must be one. -/
def ofDomain? (text : List Char) : Option String :=
  match text with
  | '[' :: inner => ofBrackets? inner
  | _ => do
    let domain ← Domain.name? (← Percent.decode? (String.ofList text)).toList
    if domain.isEmpty then none
    else if endsInNumber domain then ofNumbers? domain
    else some (String.ofList domain)

def ofText? (text : List Char) : Option String :=
  match text with
  | '[' :: inner => ofBrackets? inner
  | _ => if text.any isForbidden then none else some (String.ofList text)

end Headroom.Host
