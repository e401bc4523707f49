import Headroom.Decimal.Layout
import Headroom.Json.Value

/-!
# JSON texts

A value is written compactly, without any blank, or indented by two spaces per
level.  Inside strings only the quote, the backslash and control characters are
escaped, the latter by their short form where there is one.
-/

namespace Headroom.Json

/-- One hexadecimal digit, in lower case. -/
def hexDigit (value : Nat) : Char := Nat.digitChar (value % 16)

def escape (char : Char) : String :=
  if char = '"' then "\\\""
  else if char = '\\' then "\\\\"
  else if char = '\x08' then "\\b"
  else if char = '\x0c' then "\\f"
  else if char = '\n' then "\\n"
  else if char = '\r' then "\\r"
  else if char = '\t' then "\\t"
  else if char.toNat < 32 then
    String.ofList ['\\', 'u', '0', '0', hexDigit (char.toNat / 16), hexDigit char.toNat]
  else char.toString

def quote (text : String) : String :=
  "\"" ++ text.foldl (fun written char => written ++ escape char) "" ++ "\""

def numeral : Number → String
  | .integer value => Decimal.integer value
  | .float value => Decimal.Layout.document.write value

mutual

/-- A value without any blank. -/
def compact : Json → String
  | .null => "null"
  | .bool true => "true"
  | .bool false => "false"
  | .number value => numeral value
  | .string value => quote value
  | .array items => "[" ++ compactItems items ++ "]"
  | .object members => "\x7b" ++ compactMembers members ++ "\x7d"

/-- Array items, separated by commas. -/
def compactItems : List Json → String
  | [] => ""
  | [item] => compact item
  | item :: next :: rest => compact item ++ "," ++ compactItems (next :: rest)

/-- Object members, separated by commas. -/
def compactMembers : List (String × Json) → String
  | [] => ""
  | [(name, value)] => quote name ++ ":" ++ compact value
  | (name, value) :: next :: rest =>
    quote name ++ ":" ++ compact value ++ "," ++ compactMembers (next :: rest)

end

/-- A line break followed by the indentation of a level. -/
def lineBreak (level : Nat) : String := "\n" ++ String.ofList (List.replicate (2 * level) ' ')

mutual

/-- A value with one item or member per line, nested ones indented. -/
def pretty (level : Nat) : Json → String
  | .null => "null"
  | .bool true => "true"
  | .bool false => "false"
  | .number value => numeral value
  | .string value => quote value
  | .array [] => "[]"
  | .array (item :: rest) =>
    "[" ++ prettyItems (level + 1) (item :: rest) ++ lineBreak level ++ "]"
  | .object [] => "\x7b\x7d"
  | .object (entry :: rest) =>
    "\x7b" ++ prettyMembers (level + 1) (entry :: rest) ++ lineBreak level ++ "\x7d"

/-- Array items, each on a line of its own. -/
def prettyItems (level : Nat) : List Json → String
  | [] => ""
  | [item] => lineBreak level ++ pretty level item
  | item :: next :: rest =>
    lineBreak level ++ pretty level item ++ "," ++ prettyItems level (next :: rest)

/-- Object members, each on a line of its own. -/
def prettyMembers (level : Nat) : List (String × Json) → String
  | [] => ""
  | [(name, value)] => lineBreak level ++ quote name ++ ": " ++ pretty level value
  | (name, value) :: next :: rest =>
    lineBreak level ++ quote name ++ ": " ++ pretty level value ++ "," ++
      prettyMembers level (next :: rest)

end

def indented (value : Json) : String := pretty 0 value

end Headroom.Json
