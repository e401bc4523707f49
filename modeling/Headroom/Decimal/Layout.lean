import Headroom.Decimal.Shortest

/-!
# Texts of doubles

A layout says how the shortest digits of a double are written out: up to which
sizes without an exponent, whether a whole number keeps `.0`, whether a positive
exponent has a sign, and which digits win a tie.  Numbers inside messages never
have an exponent; numbers of documents switch to one outside `1e-5` to `1e16`;
numbers of log fields outside `1e-4` to `1e16`.
-/

namespace Headroom.Decimal

/-- How doubles are written. -/
structure Layout where
  /-- Whether a number is written without an exponent, by the position of its point counted
  from the first digit. -/
  positional : Int → Bool
  /-- Whether a whole number that is written without an exponent ends in `.0`. -/
  keepsPoint : Bool
  /-- Whether an exponent that is not negative has a plus sign. -/
  signsExponent : Bool
  /-- Which of two equally near decimals is written. -/
  tie : Tie

/-- Every number is positional, and whole numbers have no point. -/
def Layout.plain : Layout := ⟨fun _ => true, false, false, .up⟩

/-- Positional from `1e-5` up to below `1e16`, then `1e+16`; whole numbers end in `.0`. -/
def Layout.document : Layout :=
  ⟨fun position => -5 < position && position ≤ 16, true, true, .even⟩

/-- Positional from `1e-4` up to below `1e16`, then `1e16`; whole numbers end in `.0`. -/
def Layout.field : Layout :=
  ⟨fun position => -4 < position && position ≤ 16, true, false, .up⟩

def digitsOf (value : Nat) : String := String.ofList (Nat.toDigits 10 value)

def integer (value : Int) : String :=
  if value < 0 then "-" ++ digitsOf value.natAbs else digitsOf value.natAbs

def zeros (count : Nat) : String := String.ofList (List.replicate count '0')

/-- The number without an exponent, the point after `position` digits. -/
def spread (layout : Layout) (digits : String) (position : Int) : String :=
  if position ≤ 0 then "0." ++ zeros (-position).toNat ++ digits
  else if position.toNat < digits.length then
    (digits.take position.toNat).toString ++ "." ++ (digits.drop position.toNat).toString
  else
    digits ++ zeros (position.toNat - digits.length) ++ (if layout.keepsPoint then ".0" else "")

/-- The number with an exponent, the point after the first digit. -/
def scientific (layout : Layout) (digits : String) (position : Int) : String :=
  let fraction := (digits.drop 1).toString
  (digits.take 1).toString ++ (if fraction.isEmpty then "" else "." ++ fraction) ++
    (if layout.signsExponent && 1 ≤ position then "e+" else "e") ++ integer (position - 1)

def Layout.magnitude (layout : Layout) (magnitude : Magnitude) : String :=
  if magnitude.significand = 0 then (if layout.keepsPoint then "0.0" else "0")
  else
    let shortest := magnitude.shortest layout.tie
    let digits := digitsOf shortest.digits
    let position := (digits.length : Int) + shortest.exponent
    if layout.positional position then spread layout digits position
    else scientific layout digits position

def Layout.write (layout : Layout) (value : Float) : String :=
  match Parts.ofFloat value with
  | .finite negative magnitude => (if negative then "-" else "") ++ layout.magnitude magnitude
  | .infinite negative => if negative then "-inf" else "inf"
  | .undefined => "NaN"

/-- A double inside a message: shortest digits, never an exponent. -/
def plain (value : Float) : String := Layout.plain.write value

end Headroom.Decimal
