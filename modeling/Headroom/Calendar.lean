import Headroom.Decimal.Layout

/-!
# Calendar

Times as dates and times of day in the proleptic Gregorian calendar.
-/

namespace Headroom.Calendar

/-- A date. -/
structure Date where
  year : Int
  month : Nat
  day : Nat
  deriving DecidableEq, Repr

/-- The date a number of days after the first of January 1970.  Years are counted from the
first of March, so that a leap day is the last day of its year; four hundred of them
have 146097 days. -/
def dateOfDay (day : Int) : Date :=
  let shifted := day + 719468
  let cycle := shifted / 146097
  let dayOfCycle := (shifted % 146097).toNat
  let yearOfCycle :=
    (dayOfCycle - dayOfCycle / 1460 + dayOfCycle / 36524 - dayOfCycle / 146096) / 365
  let dayOfYear := dayOfCycle - (365 * yearOfCycle + yearOfCycle / 4 - yearOfCycle / 100)
  let monthIndex := (5 * dayOfYear + 2) / 153
  let dayOfMonth := dayOfYear - (153 * monthIndex + 2) / 5 + 1
  let month := if monthIndex < 10 then monthIndex + 3 else monthIndex - 9
  let year := cycle * 400 + yearOfCycle
  ⟨if month ≤ 2 then year + 1 else year, month, dayOfMonth⟩

def padded (places : Nat) (value : Nat) : String :=
  let digits := Decimal.digitsOf value
  Decimal.zeros (places - digits.length) ++ digits

/-- A year with at least four digits, and a sign outside the years 0 to 9999. -/
def yearText (year : Int) : String :=
  if 0 ≤ year ∧ year ≤ 9999 then padded 4 year.toNat
  else (if year < 0 then "-" else "+") ++ padded 4 year.natAbs

def writable (year : Int) : Bool := -262143 ≤ year && year ≤ 262142

/-- A time in milliseconds as date and time of day, or as a plain number when its year
cannot be written. -/
def timeText (milliseconds : Int64) : String :=
  let seconds := milliseconds.toInt / 1000
  let date := dateOfDay (seconds / 86400)
  let clock := (seconds % 86400).toNat
  if writable date.year then
    yearText date.year ++ "-" ++ padded 2 date.month ++ "-" ++ padded 2 date.day ++ " " ++
      padded 2 (clock / 3600) ++ ":" ++ padded 2 (clock % 3600 / 60) ++ ":" ++
      padded 2 (clock % 60) ++ " UTC"
  else Decimal.integer milliseconds.toInt

end Headroom.Calendar
