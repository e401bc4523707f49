import Headroom.Decimal.Literal

/-!
# Numerals

Texts that are numbers with a point or an exponent, or the names of an infinity or of
no number, read as the nearest double.
-/

namespace Headroom.Decimal

/-- A numeral `digits · 10 ^ exponent`. -/
structure Numeral where
  digits : Nat
  exponent : Int
  deriving DecidableEq, Repr

namespace Numeral

/-- Beyond this power of ten every numeral is infinite, and below its inverse zero. -/
def greatestPower : Int := 400

/-- The nearest double.  Numerals out of range are decided without computing powers. -/
def toFloat (numeral : Numeral) : Float :=
  let size : Int := (Nat.toDigits 10 numeral.digits).length + numeral.exponent
  if numeral.digits = 0 ∨ size < -greatestPower then 0
  else if greatestPower < size then 1.0 / 0.0
  else Float.ofScientific numeral.digits (numeral.exponent < 0) numeral.exponent.natAbs

/-- An exponent: digits after an optional sign. -/
def exponent? (text : List Char) : Option Int :=
  let (negative, digits) :=
    match text with
    | '-' :: rest => (true, rest)
    | '+' :: rest => (false, rest)
    | rest => (false, rest)
  if digits.isEmpty || !digits.all Char.isDigit then none
  else some (if negative then -(naturalOf digits : Int) else naturalOf digits)

/-- A numeral without a sign: digits around an optional point, then an optional exponent. -/
def ofText? (text : List Char) : Option Numeral := do
  let isMark := fun (char : Char) => char = 'e' || char = 'E'
  let mantissa := text.takeWhile fun char => !isMark char
  let exponent ←
    match text.dropWhile fun char => !isMark char with
    | [] => some 0
    | _ :: rest => exponent? rest
  let whole := mantissa.takeWhile (· != '.')
  let fraction := (mantissa.dropWhile (· != '.')).drop 1
  let digits := whole ++ fraction
  if digits.isEmpty || !digits.all Char.isDigit then none
  else some ⟨naturalOf digits, exponent - fraction.length⟩

end Numeral

/-- The double of a text without a sign. -/
def unsignedFloat? (text : List Char) : Option Float :=
  let word := (String.ofList text).toLower
  if word = "inf" ∨ word = "infinity" then some (1.0 / 0.0)
  else if word = "nan" then some (0.0 / 0.0)
  else (Numeral.ofText? text).map Numeral.toFloat

/-- The double of a text with an optional sign. -/
def float? (text : String) : Option Float :=
  match text.toList with
  | '-' :: rest => (unsignedFloat? rest).map fun value => -value
  | '+' :: rest => unsignedFloat? rest
  | rest => unsignedFloat? rest

end Headroom.Decimal
