import Headroom.Decimal.Whole
import Headroom.Json.Value
import Headroom.Text.Lowercase

/-!
# Overlays

A configuration is built up from sources laid over each other.  Each source sets
values at places; a place is named by a key that leads through members and items.
Where two sources give members of the same object, the members are brought together.
Names of members are in lower case.
-/

namespace Headroom.Overlay

/-- One step on the way to a place. -/
inductive Step where
  | member (name : String)
  /-- An item; negative positions count from the end. -/
  | item (position : Int)
  deriving DecidableEq, Repr

/-- Whether a character may stand in the name of a member in a key. -/
def isNameChar (char : Char) : Bool :=
  char.isAlphanum || char = ' ' || char = '_' || char = '-'

/-- A name at the start of a text, and the rest. -/
def takeName? (text : List Char) : Option (String × List Char) :=
  match text.takeWhile isNameChar with
  | [] => none
  | name => some (String.ofList name, text.dropWhile isNameChar)

def position? (text : List Char) : Option Int :=
  let isBlank := fun (char : Char) => char = ' ' || char = '\t'
  let trimmed := ((text.dropWhile isBlank).reverse.dropWhile isBlank).reverse
  match trimmed with
  | '+' :: _ => none
  | _ => Decimal.int64? (String.ofList trimmed)

/-- The steps after the first one; each uses up some of the text, of which there is `fuel`. -/
def laterSteps? : Nat → List Char → Option (List Step)
  | _, [] => some []
  | 0, _ => none
  | fuel + 1, '.' :: rest => do
    let (name, rest) ← takeName? rest
    return .member name :: (← laterSteps? fuel rest)
  | fuel + 1, '[' :: rest =>
    match rest.dropWhile (· != ']') with
    | _ :: after => do
      let position ← position? (rest.takeWhile (· != ']'))
      return .item position :: (← laterSteps? fuel after)
    | [] => none
  | _ + 1, _ => none

/-- The steps of a key.  A key that is no path is the name of one member. -/
def steps (key : String) : List Step :=
  let path := do
    let (name, rest) ← takeName? key.toList
    return Step.member name :: (← laterSteps? rest.length rest)
  path.getD [.member key]

/-- The members of an object; none of any other value. -/
def membersOf : Json → List (String × Json)
  | .object members => members
  | _ => []

/-- The items of an array; none of any other value. -/
def itemsOf : Json → List Json
  | .array items => items
  | _ => []

def setMember (name : String) (value : Json) : List (String × Json) → List (String × Json)
  | [] => [(name, value)]
  | entry :: rest =>
    if entry.1 = name then (name, value) :: rest else entry :: setMember name value rest

mutual

/-- The value of a member over an earlier one: objects are brought together, and anything
else takes the place of what was there. -/
def combine (before : Option Json) : Json → Json
  | .object members => combineAll (before.getD (.object [])) members
  | value => value

/-- Sets members of a value, one after the other. -/
def combineAll (before : Json) : List (String × Json) → Json
  | [] => before
  | (name, value) :: rest =>
    let members := membersOf before
    let key := Text.lowerName name
    combineAll (.object (setMember key (combine (members.lookup key) value) members)) rest

end

/-- Sets one member, bringing it together with what was there. -/
def put (before : Json) (name : String) (value : Json) : Json := combineAll before [(name, value)]

/-- The place of a position among a number of items. -/
def place (position : Int) (count : Nat) : Nat :=
  if 0 ≤ position then position.toNat else count - position.natAbs

/-- Sets the value at the end of some steps.  What stands in the way is replaced, and items
that are missing become null. -/
def assign (value : Json) : List Step → Json → Json
  | [], _ => value
  | [.member name], before => put before name value
  | .member name :: rest, before =>
    let members := membersOf before
    let key := Text.lowerName name
    .object (setMember key (assign value rest ((members.lookup key).getD .null)) members)
  | .item position :: rest, before =>
    let items := itemsOf before
    let index := place position items.length
    let filled := items ++ List.replicate (index + 1 - items.length) .null
    .array (filled.set index (assign value rest (filled[index]?.getD .null)))

/-- Lays a source, given as keys with values, over a configuration. -/
def lay (source : List (String × Json)) (before : Json) : Json :=
  source.foldl (fun value (key, given) => assign given (steps key) value) before

end Headroom.Overlay
