/-!
# Punycode

A way to write any characters with small letters and digits.  The ordinary
characters come first; the others follow as numbers, each of which says how far to
go from one character and place to the next.  A number is written from its lowest
digit, and the digit that ends it is below a threshold, which adapts to how large the
numbers before were.
-/

namespace Headroom.Domain.Punycode

def base : Nat := 36

def thresholds : Nat × Nat := (1, 26)

def firstCode : Nat := 0x80

def firstBias : Nat := 72

def digit? (char : Char) : Option Nat :=
  if 'a' ≤ char ∧ char ≤ 'z' then some (char.toNat - 'a'.toNat)
  else if '0' ≤ char ∧ char ≤ '9' then some (char.toNat - '0'.toNat + 26)
  else none

/-- The threshold for a digit at a place, where places count in steps of the base. -/
def threshold (bias place : Nat) : Nat := max thresholds.1 (min thresholds.2 (place - bias))

/-- Divides a number until it is small, and counts the bases. -/
def shrink (number count : Nat) : Nat × Nat :=
  if 455 < number then shrink (number / 35) (count + base) else (number, count)
termination_by number
decreasing_by exact Nat.div_lt_self (by omega) (by omega)

/-- The bias after a number, given how many characters there are now. -/
def adapt (number size : Nat) (isFirst : Bool) : Nat :=
  let damped := if isFirst then number / 700 else number / 2
  let (small, count) := shrink (damped + damped / size) 0
  count + base * small / (small + 38)

/-- What has been read: the text so far, the character and the place that the next number counts
from, the bias, and the number that is being read with the weight and the place of its next digit. -/
structure Reading where
  text : List Nat
  code : Nat
  position : Nat
  bias : Nat
  value : Nat
  weight : Nat
  place : Nat

def Reading.begin (text : List Nat) (code position bias : Nat) : Reading :=
  ⟨text, code, position, bias, 0, 1, base⟩

/-- Puts a character at the place that a number leads to. -/
def Reading.insert? (reading : Reading) (value : Nat) : Option Reading :=
  let size := reading.text.length + 1
  let total := reading.position + value
  let code := reading.code + total / size
  let position := total % size
  if code.isValidChar then
    some (.begin (reading.text.insertIdx position code) code (position + 1)
      (adapt value size (reading.position = 0)))
  else none

def Reading.read? (reading : Reading) (char : Char) : Option Reading := do
  let digit ← digit? char
  let value := reading.value + digit * reading.weight
  let bound := threshold reading.bias reading.place
  if digit < bound then reading.insert? value
  else
    some { reading with
      value := value
      weight := reading.weight * (base - bound)
      place := reading.place + base }

/-- The ordinary characters, which end at the last hyphen unless that is the first character, and
the digits. -/
def divide (text : List Char) : List Char × List Char :=
  let digits := (text.reverse.takeWhile (· != '-')).reverse
  let ordinary := text.take (text.length - digits.length - 1)
  if ordinary.isEmpty then ([], text) else (ordinary, digits)

def decode? (text : List Char) : Option (List Nat) := do
  let (ordinary, digits) := divide text
  let start := Reading.begin (ordinary.map Char.toNat) firstCode 0 firstBias
  let reading ← digits.foldlM Reading.read? start
  if reading.place = base then some reading.text else none

end Headroom.Domain.Punycode
