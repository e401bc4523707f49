import Headroom.Decimal.Binary

/-!
# Shortest decimals

The fewest decimal digits that identify a double: of all decimals that round to
it, one with the fewest digits, and of those the nearest.  A decimal with `n`
digits lies on the grid of multiples of a power of ten; if any point of a grid
rounds to the value, one of the value's two neighbours on that grid does.  Where
both neighbours do and are equally near, a rule for ties decides.
-/

namespace Headroom.Decimal

/-- Which of two equally near neighbours is taken. -/
inductive Tie where
  /-- The one with an even last digit. -/
  | even
  /-- The larger one. -/
  | up
  deriving DecidableEq, Repr

/-- Whether the smaller neighbour wins a tie; `lower` holds its digits. -/
def Tie.takesLower (tie : Tie) (lower : Nat) : Bool :=
  match tie with
  | even => lower % 2 == 0
  | up => false

/-- The number `digits · 10 ^ exponent`. -/
structure Scientific where
  digits : Nat
  exponent : Int
  deriving DecidableEq, Repr

/-- Drops trailing zeros of the digits, `fuel` of them at most. -/
def Scientific.trim (number : Scientific) : Nat → Scientific
  | 0 => number
  | fuel + 1 =>
    if number.digits ≠ 0 ∧ number.digits % 10 = 0 then
      Scientific.trim ⟨number.digits / 10, number.exponent + 1⟩ fuel
    else number

/-- The number of decimal digits of a natural number; zero has one. -/
def digitCount (value : Nat) : Nat := (Nat.toDigits 10 value).length

/-- Counts the factors of ten, `fuel` at most, that bring a quotient below one up to one. -/
def leadingZeros (numerator denominator : Nat) : Nat → Nat
  | 0 => 0
  | fuel + 1 =>
    if denominator ≤ numerator * 10 then 0
    else leadingZeros (numerator * 10) denominator fuel + 1

/-- The least `k` with `numerator / denominator < 10 ^ k`, for a positive quotient. -/
def pointPosition (numerator denominator : Nat) : Int :=
  if denominator ≤ numerator then (digitCount (numerator / denominator) : Int)
  else -(leadingZeros numerator denominator 400 : Int)

/-- Multiplies a quotient by a power of ten. -/
def scaleByTen (quotient : Nat × Nat) (exponent : Int) : Nat × Nat :=
  if 0 ≤ exponent then (quotient.1 * Nat.pow 10 exponent.toNat, quotient.2)
  else (quotient.1, quotient.2 * Nat.pow 10 (-exponent).toNat)

/-- Whether the quotient `candidate` rounds to the magnitude.  The reals that do
reach half a gap to each side, ends included when the significand is even. -/
def Magnitude.roundsFrom (magnitude : Magnitude) (candidate : Nat × Nat) : Bool :=
  let value := magnitude.quotient
  let unit := (⟨1, magnitude.exponent, false⟩ : Magnitude).quotient
  -- all three compared over the common denominator `4 · candidate.2 · value.2 · unit.2`
  let scaledCandidate := 4 * candidate.1 * value.2 * unit.2
  let scaledValue := 4 * value.1 * candidate.2 * unit.2
  let gap := unit.1 * candidate.2 * value.2
  let above := 2 * gap
  let below := if magnitude.tight then gap else 2 * gap
  if magnitude.significand % 2 = 0 then
    scaledValue ≤ scaledCandidate + below && scaledCandidate ≤ scaledValue + above
  else
    scaledValue < scaledCandidate + below && scaledCandidate < scaledValue + above

/-- The better of the value's two neighbours on the grid `10 ^ exponent`, if one of
them rounds to the value. -/
def Magnitude.onGrid? (magnitude : Magnitude) (tie : Tie) (exponent : Int) : Option Scientific :=
  let scaled := scaleByTen magnitude.quotient (-exponent)
  let lower := scaled.1 / scaled.2
  let remainder := scaled.1 % scaled.2
  let rounds := fun digits => magnitude.roundsFrom (scaleByTen (digits, 1) exponent)
  let lowerRounds := rounds lower
  let upperRounds := rounds (lower + 1)
  let lowerNearer := 2 * remainder < scaled.2 || (2 * remainder == scaled.2 && tie.takesLower lower)
  if lowerRounds && (!upperRounds || lowerNearer) then some ⟨lower, exponent⟩
  else if upperRounds then some ⟨lower + 1, exponent⟩
  else none

/-- Tries finer and finer grids, `fuel` more of them after the given one. -/
def Magnitude.search (magnitude : Magnitude) (tie : Tie) (exponent : Int) : Nat → Scientific
  | 0 => (magnitude.onGrid? tie exponent).getD ⟨magnitude.significand, magnitude.exponent⟩
  | fuel + 1 =>
    match magnitude.onGrid? tie exponent with
    | some found => found
    | none => magnitude.search tie (exponent - 1) fuel

/-- The shortest decimal that rounds to a magnitude.  Seventeen digits always suffice. -/
def Magnitude.shortest (magnitude : Magnitude) (tie : Tie) : Scientific :=
  if magnitude.significand = 0 then ⟨0, 0⟩
  else
    let quotient := magnitude.quotient
    let position := pointPosition quotient.1 quotient.2
    (magnitude.search tie (position - 1) 17).trim 20

end Headroom.Decimal
