import Headroom.Decimal.Layout

/-!
# Fixed places

A double rounded to a given number of decimal places.  The exact binary value is
rounded, and a value halfway between two neighbours goes to the even one.
-/

namespace Headroom.Decimal

/-- The quotient rounded to a whole number, halves to the even neighbour. -/
def roundHalfEven (numerator denominator : Nat) : Nat :=
  let lower := numerator / denominator
  let twice := 2 * (numerator % denominator)
  if twice < denominator then lower
  else if denominator < twice then lower + 1
  else if lower % 2 = 0 then lower else lower + 1

/-- A whole number of units of `10 ^ -places`, written with its point. -/
def withPlaces (places : Nat) (units : Nat) : String :=
  let digits := digitsOf units
  let padded := zeros (places + 1 - digits.length) ++ digits
  if places = 0 then padded
  else
    (padded.take (padded.length - places)).toString ++ "." ++
      (padded.drop (padded.length - places)).toString

/-- A double with a fixed number of places. -/
def fixed (places : Nat) (value : Float) : String :=
  match Parts.ofFloat value with
  | .finite negative magnitude =>
    let quotient := scaleByTen magnitude.quotient places
    (if negative then "-" else "") ++ withPlaces places (roundHalfEven quotient.1 quotient.2)
  | .infinite negative => if negative then "-inf" else "inf"
  | .undefined => "NaN"

end Headroom.Decimal
