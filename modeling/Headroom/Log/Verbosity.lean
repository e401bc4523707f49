import Headroom.Decimal.Whole
import Headroom.Event

/-!
# Verbosity

How important a line of the log has to be to be shown.
-/

namespace Headroom

/-- The least rank of the lines that are shown. -/
structure Verbosity where
  leastRank : Nat
  deriving DecidableEq, Repr

namespace Verbosity

/-- Shows the lines of a level and of those above it. -/
def ofLevel (level : Level) : Verbosity := ⟨level.rank⟩

def full : Verbosity := ⟨0⟩

def silent : Verbosity := ⟨Level.error.rank + 1⟩

/-- The verbosities in increasing order, as numbers count them. -/
def scale : List Verbosity :=
  [silent, ofLevel .error, ofLevel .warn, ofLevel .info, ofLevel .debug, full]

/-- The words for the verbosities, in the same order. -/
def words : List String := ["off", "error", "warn", "info", "debug", "trace"]

/-- The verbosity that a text stands for, which is a number or a word in any case. -/
def ofText? (text : String) : Option Verbosity :=
  match Decimal.natural? scale.length text with
  | some number => scale[number]?
  | none => (words.zip scale).lookup text.toLower

def shows (verbosity : Verbosity) (level : Level) : Bool := verbosity.leastRank ≤ level.rank

end Verbosity

end Headroom
