/-!
# Binary fractions

A finite double is a sign and a magnitude `significand · 2 ^ exponent`.  The
exact printers of this library start from that decomposition and compute with
natural numbers only.
-/

namespace Headroom.Decimal

/-- The magnitude `significand · 2 ^ exponent`; `tight` says that the next smaller
double is only half as far away as the next larger one. -/
structure Magnitude where
  significand : Nat
  exponent : Int
  tight : Bool
  deriving DecidableEq, Repr

/-- A double taken apart: sign and magnitude, an infinity, or no number. -/
inductive Parts where
  | finite (negative : Bool) (magnitude : Magnitude)
  | infinite (negative : Bool)
  | undefined
  deriving DecidableEq, Repr

/-- The number of fractions: a double has 52 binary digits after the leading one. -/
def fractionCount : Nat := 4503599627370496

/-- The number of exponent fields: eleven binary digits. -/
def fieldCount : Nat := 2048

/-- Reads sign, exponent and fraction off the bits of a double. -/
def Parts.ofFloat (value : Float) : Parts :=
  let bits : Nat := value.toBits.toNat
  let negative := fieldCount * fractionCount ≤ bits
  let field : Nat := bits / fractionCount % fieldCount
  let fraction := bits % fractionCount
  if field = 2047 then
    if fraction = 0 then .infinite negative else .undefined
  else if field = 0 then
    .finite negative ⟨fraction, -1074, false⟩
  else
    .finite negative ⟨fractionCount + fraction, Int.ofNat field - 1075, decide (fraction = 0 ∧ 1 < field)⟩

/-- The magnitude as a quotient of natural numbers. -/
def Magnitude.quotient (magnitude : Magnitude) : Nat × Nat :=
  if 0 ≤ magnitude.exponent then
    (magnitude.significand * Nat.pow 2 magnitude.exponent.toNat, 1)
  else
    (magnitude.significand, Nat.pow 2 (-magnitude.exponent).toNat)

end Headroom.Decimal
