/-!
# Times and durations

Times are milliseconds since the Unix epoch in 64 bits.  Differences and
configured durations saturate instead of wrapping, so a duration that is too long
to be represented acts like the longest one.
-/

namespace Headroom.Time

/-- The integer moved into the range of 64-bit times. -/
def saturate (value : Int) : Int64 := Int64.ofIntClamp value

/-- The time from `past` to `now`, saturated at both ends. -/
def elapsed (now past : Int64) : Int64 := saturate (now.toInt - past.toInt)

/-- The point in time a duration before `now`, saturated at both ends. -/
def before (now duration : Int64) : Int64 := saturate (now.toInt - duration.toInt)

/-- The whole milliseconds of a duration in seconds and nanoseconds, saturated. -/
def milliseconds (seconds nanoseconds : Nat) : Int64 :=
  saturate ((seconds * 1000000000 + nanoseconds) / 1000000 : Nat)

/-- The whole milliseconds of a configured number of seconds, saturated. -/
def ofSeconds (seconds : UInt64) : Int64 := milliseconds seconds.toNat 0

/-- The time after an adjustment of the clock by some milliseconds.  The step is saturated
first, the addition wraps. -/
def advance (now : Int64) (step : UInt64) : Int64 := now + saturate step.toNat

end Headroom.Time
