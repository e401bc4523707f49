import Headroom.Text.Combining
import Headroom.Text.Printable

/-!
# Quoted texts

A text between quotes, with everything escaped that would be invisible or would
change what stands before it.  Log fields show texts in this form.
-/

namespace Headroom.Text

def hexadecimal (code : Nat) : String := String.ofList (Nat.toDigits 16 code)

def quotedChar (char : Char) : String :=
  if char = '\x00' then "\\0"
  else if char = '\t' then "\\t"
  else if char = '\r' then "\\r"
  else if char = '\n' then "\\n"
  else if char = '"' then "\\\""
  else if char = '\\' then "\\\\"
  else if isCombining char || !isPrintable char then
    "\\u\x7b" ++ hexadecimal char.toNat ++ "\x7d"
  else char.toString

def quoted (text : String) : String :=
  "\"" ++ text.foldl (fun written char => written ++ quotedChar char) "" ++ "\""

def quotedList (texts : List String) : String :=
  "[" ++ String.intercalate ", " (texts.map quoted) ++ "]"

/-- A path between quotes, in which single quotes are escaped too. -/
def quotedPath (path : String) : String :=
  "\"" ++ path.foldl (fun written char =>
    written ++ if char.toNat = 0x27 then "\\'" else quotedChar char) "" ++ "\""

def quotedPathOption : Option String → String
  | some path => "Some(" ++ quotedPath path ++ ")"
  | none => "None"

end Headroom.Text
