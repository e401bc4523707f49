import Headroom.Category
import Headroom.Scalar

/-!
# Thresholds

Two thresholds cut the unit interval into three bands.  A node changes its band
with hysteresis: leaving the lowest band takes a score one margin above its
boundary, leaving the highest a score one margin below, so that a score that
hovers at a boundary does not make the category flap.
-/

namespace Headroom

/-- The boundaries between the bands, and the margins for leaving the outer ones. -/
structure Thresholds (α : Type) where
  low : α
  high : α
  lowMargin : α
  highMargin : α

namespace Thresholds

variable {α : Type} [Scalar α]

/-- The thresholds of a configuration that names none. -/
def default : Thresholds α := ⟨0.4, 0.8, 0.05, 0.05⟩

/-- The band of a score, without hysteresis. -/
def band (thresholds : Thresholds α) (score : α) : Category :=
  if score < thresholds.low then .low
  else if score < thresholds.high then .medium
  else .high

def next (thresholds : Thresholds α) (current : Category) (score : α) : Category :=
  match current with
  | .sundown => .sundown
  | .initial => thresholds.band score
  | .low =>
    if thresholds.low + thresholds.lowMargin ≤ score then
      if thresholds.high ≤ score then .high else .medium
    else .low
  | .medium =>
    if thresholds.high ≤ score then .high
    else if score < thresholds.low then .low
    else .medium
  | .high =>
    if score < thresholds.high - thresholds.highMargin then
      if score < thresholds.low then .low else .medium
    else .high

end Thresholds

end Headroom
