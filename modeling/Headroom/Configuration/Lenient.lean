import Headroom.Decimal.Layout
import Headroom.Decimal.Numeral
import Headroom.Decimal.Whole
import Headroom.Json.Reader
import Headroom.Schema.Settings

/-!
# Lenient values

Configuration comes from sources that do not tell numbers, truth values and texts
apart.  A value is read as what is wanted wherever that makes sense: a truth value
counts as one or zero, a text may spell a number, and any plain value has a text.
-/

namespace Headroom.Lenient

/-- A plain value.  Integers of more than 63 binary digits count as doubles. -/
inductive Plain where
  | truth (value : Bool)
  | integer (value : Int)
  | float (value : Float)
  | text (value : String)

/-- The plain value of a draft, if it is one. -/
def Plain.ofDraft? : Draft → Option Plain
  | .bool value => some (.truth value)
  | .number (some (.integer value)) =>
    some (if value ≤ Int64.maxValue.toInt then .integer value else .float (Float.ofInt value))
  | .number (some (.float value)) => some (.float value)
  | .string (some value) => some (.text value)
  | _ => none

/-- The texts that spell a truth value when a number is wanted. -/
def truthOf? (text : String) : Option Bool :=
  let word := text.toLower
  if word = "true" ∨ word = "on" ∨ word = "yes" then some true
  else if word = "false" ∨ word = "off" ∨ word = "no" then some false
  else none

namespace Plain

/-- The value as an unsigned number; doubles are rounded to the nearest one in range. -/
def toNatural? : Plain → Option UInt64
  | truth value => some (if value then 1 else 0)
  | integer value => if value < 0 then none else some (.ofNat value.toNat)
  | float value => some value.round.toUInt64
  | text value =>
    match truthOf? value with
    | some holds => some (if holds then 1 else 0)
    | none => (Decimal.natural? UInt64.size value).map UInt64.ofNat

/-- The value as the number of a port, which has to be in range. -/
def toPort? (value : Plain) : Option UInt16 := do
  let number ← value.toNatural?
  if number.toNat < UInt16.size then some number.toUInt16 else none

def toFloat? : Plain → Option Float
  | truth value => some (if value then 1 else 0)
  | integer value => some (Float.ofInt value)
  | float value => some value
  | text value =>
    match truthOf? value with
    | some holds => some (if holds then 1 else 0)
    | none => Decimal.float? value

def toText : Plain → String
  | truth value => if value then "true" else "false"
  | integer value => Decimal.integer value
  | float value => Decimal.plain value
  | text value => value

end Plain

/-- Reads a plain value in a given way. -/
def plain {α : Type} (convert : Plain → Option α) : Reader α := fun draft =>
  match (Plain.ofDraft? draft).bind convert with
  | some value => .ok value
  | none => .error .wrongShape

def natural : Reader UInt64 := plain Plain.toNatural?

def port : Reader UInt16 := plain Plain.toPort?

def float : Reader Float := plain Plain.toFloat?

def text : Reader String := plain fun value => some value.toText

/-- The rules for settings that come from lenient sources. -/
def rules : SettingsRules := ⟨float, natural, RecordReader.readLeading⟩

end Headroom.Lenient
