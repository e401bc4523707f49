/-!
# Scalars

The arithmetic that scoring and classification need.  Doubles are the scalars of
a running engine; rational numbers obey the same definitions in exact arithmetic,
so statements about rounding-free scores can be made about the same functions.
-/

namespace Headroom

/-- Numbers that can be scored: arithmetic, a decidable order, and the two predicates
that tell a value apart from infinities and from no number at all. -/
class Scalar (α : Type) extends Add α, Sub α, Mul α, Div α, LT α, LE α, OfScientific α where
  decidableLT : DecidableLT α
  decidableLE : DecidableLE α
  /-- The scalar of a number of samples. -/
  ofCount : Nat → α
  /-- The value a sum starts from.  For doubles it is minus zero, the only double that
  leaves every other one unchanged when it is added. -/
  emptySum : α
  isFinite : α → Bool
  isUndefined : α → Bool

instance decidableLess {α : Type} [Scalar α] : DecidableLT α := Scalar.decidableLT

instance decidableAtMost {α : Type} [Scalar α] : DecidableLE α := Scalar.decidableLE

instance floatScalar : Scalar Float where
  decidableLT := inferInstance
  decidableLE := inferInstance
  ofCount := Float.ofNat
  emptySum := -0.0
  isFinite := Float.isFinite
  isUndefined := Float.isNaN

instance rationalScalar : Scalar Rat where
  decidableLT := inferInstance
  decidableLE := inferInstance
  ofCount := Nat.cast
  emptySum := 0
  isFinite := fun _ => true
  isUndefined := fun _ => false

namespace Scalar

variable {α : Type} [Scalar α]

def sum (values : List α) : α := values.foldl (· + ·) emptySum

/-- The value moved into the interval from `low` to `high`. -/
def clamp (low high value : α) : α :=
  if value < low then low else if high < value then high else value

/-- Whether a value lies in the unit interval; a value that is no number does not. -/
def inUnit (value : α) : Bool := 0.0 ≤ value && value ≤ 1.0

/-- The value moved into the interval from zero to `high`, zero if it is no number. -/
def clampTo (high value : α) : α := if isUndefined value then 0.0 else clamp 0.0 high value

/-- The value moved into the unit interval, zero if it is no number. -/
def clampUnit (value : α) : α := clampTo 1.0 value

end Scalar

end Headroom
