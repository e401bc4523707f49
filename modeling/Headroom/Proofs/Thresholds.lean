import Headroom.Settings
import Headroom.Proofs.Double.Sums
import Headroom.Proofs.Guards

/-!
# Categories and scores

A category remembers on which side of a boundary the score came from, so a score alone does
not tell the category.  But a category is never held at any score: each has a region, wider
than its band by the margin for leaving it, and whatever the category was before, a score
leads to one in whose region it lies.  Margins are added and subtracted with rounding; the
regions contain the bands nevertheless, because a margin that is not negative never moves a
boundary the wrong way.
-/

namespace Headroom

open Double

namespace Double

/-- A double between zero and one is finite. -/
theorem isFinite_of_inUnit {value : Float} (inUnit : Scalar.inUnit value = true) :
    value.isFinite = true := by
  simp only [Scalar.inUnit, Bool.and_eq_true, decide_eq_true_eq] at inUnit
  obtain ⟨nonneg, atMostOne⟩ := inUnit
  refine (finite_or_infinity nonneg).resolve_right fun infinite => ?_
  have greatest : position value = beyond := congrArg units infinite
  have small : (position 1.0).natAbs < beyond := (onScale_units (proper 1.0) rfl).natAbs_lt
  have below := (le_iff_position.mp atMostOne).2.2
  omega

end Double

namespace Thresholds

/-- The scores at which a category may be held. -/
def Region (thresholds : Thresholds Float) (score : Float) : Category → Prop
  | .initial => False
  | .low => score < thresholds.low + thresholds.lowMargin
  | .medium => thresholds.low ≤ score ∧ score < thresholds.high
  | .high => thresholds.high - thresholds.highMargin ≤ score
  | .sundown => True

/-- The margins widen the outer regions. -/
structure Widening (thresholds : Thresholds Float) : Prop where
  low : thresholds.low ≤ thresholds.low + thresholds.lowMargin
  high : thresholds.high - thresholds.highMargin ≤ thresholds.high

theorem widening_of_validate {thresholds : Thresholds Float}
    (valid : thresholds.validate = .ok ()) : thresholds.Widening := by
  simp only [validate, Guards.error_bind, Guards.ite_error_eq_ok, Bool.or_eq_true, not_or,
    Bool.not_eq_true', Bool.not_eq_false, decide_eq_true_eq] at valid
  obtain ⟨⟨⟨low, high⟩, _⟩, ⟨lowMargin, highMargin⟩, _⟩ := valid
  exact ⟨le_add (isFinite_of_inUnit low) lowMargin, sub_le (isFinite_of_inUnit high) highMargin⟩

/-- Whatever category a node leaves, a score leads to a category in whose region it lies. -/
theorem Widening.region_next {thresholds : Thresholds Float} (widening : thresholds.Widening)
    (current : Category) {score : Float} (defined : score.isNaN = false) :
    thresholds.Region score (thresholds.next current score) := by
  obtain ⟨lowDefined, raisedDefined, raised⟩ := le_iff_position.mp widening.low
  obtain ⟨loweredDefined, highDefined, lowered⟩ := le_iff_position.mp widening.high
  have below {bound : Float} (boundDefined : bound.isNaN = false) :
      score < bound ↔ position score < position bound := by
    simp only [lt_iff_position, defined, boundDefined, true_and]
  have atLeast {bound : Float} (boundDefined : bound.isNaN = false) :
      bound ≤ score ↔ position bound ≤ position score := by
    simp only [le_iff_position, defined, boundDefined, true_and]
  cases current with
  | sundown => trivial
  | _ =>
    simp only [next, band, below lowDefined, below highDefined, below loweredDefined,
      atLeast highDefined, atLeast raisedDefined]
    split_ifs <;>
      simp only [Region, below raisedDefined, below highDefined, atLeast lowDefined,
        atLeast loweredDefined] <;>
      omega

end Thresholds

end Headroom
