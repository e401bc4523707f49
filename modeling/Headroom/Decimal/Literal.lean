import Headroom.Decimal.Shortest

/-!
# Reading numerals

A numeral of a document is read by a fast rule rather than by exact rounding.
Its digits are taken into a 64-bit significand for as long as they fit; the
significand becomes a double and is scaled by one multiplication or division by
a power of ten.  So a numeral of sixteen or more digits may come out one unit in
the last place away from the nearest double.
-/

namespace Headroom.Decimal

def digitValue (digit : Char) : Nat := digit.toNat - '0'.toNat

/-- Takes digits into a significand while it fits into 64 bits, and counts them. -/
def absorb (significand taken : Nat) : List Char → Nat × Nat
  | [] => (significand, taken)
  | digit :: rest =>
    let extended := significand * 10 + digitValue digit
    if extended < UInt64.size then absorb extended (taken + 1) rest else (significand, taken)

/-- The natural number that a list of decimal digits denotes. -/
def naturalOf (digits : List Char) : Nat :=
  digits.foldl (fun value digit => value * 10 + digitValue digit) 0

/-- The double nearest to a power of ten. -/
def powerOfTen (exponent : Nat) : Float := Float.ofScientific 1 false exponent

/-- Divides a double by a power of ten, in steps of at most `10 ^ 308`. -/
def scaleDown (value : Float) (exponent : Nat) : Float :=
  if exponent ≤ 308 then value / powerOfTen exponent
  else if value == 0 then value
  else scaleDown (value / powerOfTen 308) (exponent - 308)
termination_by exponent

/-- Multiplies a double by a power of ten; nothing when the product is too large. -/
def scaleUp? (value : Float) (exponent : Nat) : Option Float :=
  if exponent ≤ 308 then
    let product := value * powerOfTen exponent
    if product.isInf then none else some product
  else if value == 0 then some value
  else none

/-- A numeral taken apart: digits before the point, digits after it, and an exponent. -/
structure Literal where
  negative : Bool
  whole : List Char
  fraction : Option (List Char)
  exponent : Option (Bool × List Char)
  deriving DecidableEq, Repr

/-- The magnitude of a numeral by the fast rule; nothing when it is too large. -/
def Literal.scaled? (literal : Literal) : Option Float :=
  let (upper, taken) := absorb 0 0 literal.whole
  let dropped := literal.whole.length - taken
  let (significand, places) := absorb upper 0 (literal.fraction.getD [])
  let power : Int :=
    match literal.exponent with
    | none => 0
    | some (true, digits) => -(naturalOf digits : Int)
    | some (false, digits) => (naturalOf digits : Int)
  let exponent : Int := (dropped : Int) - (places : Int) + power
  let value := Float.ofNat significand
  if 0 ≤ exponent then scaleUp? value exponent.toNat
  else some (scaleDown value (-exponent).toNat)

/-- The integer of a numeral without point and exponent, if 64 bits hold it.  Minus
zero is no integer. -/
def Literal.integer? (literal : Literal) : Option Int :=
  if literal.fraction.isSome || literal.exponent.isSome then none
  else
    let value := naturalOf literal.whole
    if literal.negative then
      if 0 < value && Int64.minValue.toInt ≤ -(value : Int) then some (-(value : Int)) else none
    else if value < UInt64.size then some (value : Int)
    else none

/-- The double of a numeral by the fast rule; nothing when it is too large. -/
def Literal.float? (literal : Literal) : Option Float :=
  literal.scaled?.map fun value => if literal.negative then -value else value

end Headroom.Decimal
