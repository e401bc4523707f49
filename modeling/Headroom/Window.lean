import Headroom.Sample
import Headroom.Time

/-!
# Windows

The recent samples of a node, oldest first.  A window is bounded by count and by
age: a push drops the oldest samples beyond the count, then those that are too old
relative to the sample pushed.
-/

namespace Headroom

/-- The recent samples of a node, oldest first. -/
structure Window (α : Type) where
  samples : List (Sample α)

namespace Window

variable {α : Type}

/-- What bounds a window. -/
structure Limits where
  /-- The greatest number of samples, at least one. -/
  maxSamples : Nat
  /-- The greatest age in milliseconds, relative to the newest sample. -/
  maxAge : Int64
  deriving DecidableEq, Repr

def empty : Window α := ⟨[]⟩

def isEmpty (window : Window α) : Bool := window.samples.isEmpty

def size (window : Window α) : Nat := window.samples.length

def latest? (window : Window α) : Option (Sample α) := window.samples.getLast?

/-- Appends a sample and drops what no longer fits. -/
def push (limits : Limits) (window : Window α) (sample : Sample α) : Window α :=
  let surplus := window.samples.length + 1 - limits.maxSamples
  let cutoff := Time.before sample.timestamp limits.maxAge
  ⟨(window.samples.drop surplus ++ [sample]).dropWhile fun other => other.timestamp < cutoff⟩

/-- The mean of a quantity over the window; none when it is empty. -/
def mean? [Scalar α] (window : Window α) (quantity : Sample α → α) : Option α :=
  if window.isEmpty then none
  else some (Scalar.sum (window.samples.map quantity) / Scalar.ofCount window.size)

end Window

end Headroom
