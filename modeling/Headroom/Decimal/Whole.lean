import Headroom.Decimal.Literal

/-!
# Whole numbers

Texts that are whole numbers: decimal digits after an optional sign, nothing else.
-/

namespace Headroom.Decimal

/-- The natural number of a list of digits; none if it is empty or holds anything else. -/
def digits? (text : List Char) : Option Nat :=
  if text.isEmpty || !text.all Char.isDigit then none else some (naturalOf text)

/-- A natural number with an optional plus sign, below a bound. -/
def natural? (bound : Nat) (text : String) : Option Nat :=
  let value :=
    match text.toList with
    | '+' :: rest => digits? rest
    | rest => digits? rest
  value.filter (· < bound)

def integer? (text : String) : Option Int :=
  match text.toList with
  | '-' :: rest => (digits? rest).map fun value => -(value : Int)
  | '+' :: rest => (digits? rest).map fun value => (value : Int)
  | rest => (digits? rest).map fun value => (value : Int)

/-- An integer with an optional sign, within 64 bits. -/
def int64? (text : String) : Option Int :=
  (integer? text).filter fun value =>
    Int64.minValue.toInt ≤ value && value ≤ Int64.maxValue.toInt

end Headroom.Decimal
