/-!
# Tables of characters

A table says something about many characters in few words.  A word gives the first
and the last code point of a run, the distance of those that belong to it where it
is not one, and after a colon what belongs to the first of them: `41-5A:61` or
`100-12E/2:101` or `DF:73+73`.  All numbers are hexadecimal.
-/

namespace Headroom.Text.Table

/-- A run of characters with what belongs to the first of them. -/
structure CharRun where
  first : Nat
  last : Nat
  step : Nat
  target : List Nat
  deriving DecidableEq, Repr

def digit (char : Char) : Nat :=
  if char.isDigit then char.toNat - '0'.toNat else char.toNat - 'A'.toNat + 10

def number (digits : List Char) : Nat := digits.foldl (fun value char => value * 16 + digit char) 0

/-- What stands before a separator and what stands after it, if it is there. -/
def split (separator : Char) (text : List Char) : List Char × Option (List Char) :=
  match text.dropWhile (· != separator) with
  | [] => (text, none)
  | _ :: after => (text.takeWhile (· != separator), some after)

def pieces (separator : Char) (text : List Char) : List (List Char) :=
  let (last, earlier) := text.foldr
    (fun char (current, others) =>
      if char = separator then ([], current :: others) else (char :: current, others))
    ([], [])
  last :: earlier

def CharRun.ofWord (word : List Char) : CharRun :=
  let (run, target) := split ':' word
  let (bounds, step) := split '/' run
  let (first, last) := split '-' bounds
  ⟨number first, (last.map number).getD (number first), (step.map number).getD 1,
    ((target.map (pieces '+')).getD []).map number⟩

def read (lines : List String) : List CharRun :=
  lines.flatMap fun line => (pieces ' ' line.toList).map CharRun.ofWord

/-- Whether a code point belongs to a run. -/
def CharRun.covers (run : CharRun) (code : Nat) : Bool :=
  decide (run.first ≤ code) && decide (code ≤ run.last) &&
    (code - run.first) % run.step == 0

/-- What belongs to a code point of a run: a single code point runs along with it. -/
def CharRun.targetOf (run : CharRun) (code : Nat) : List Nat :=
  match run.target with
  | [first] => [first + (code - run.first)]
  | target => target

/-- Whether a code point is in a table. -/
def holds (runs : List CharRun) (code : Nat) : Bool := runs.any (·.covers code)

def find? (runs : List CharRun) (code : Nat) : Option (List Nat) :=
  (runs.find? (·.covers code)).map (·.targetOf code)

end Headroom.Text.Table
