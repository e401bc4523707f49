/-!
# Media types

The type, subtype and parameters of a content type, as far as it takes to tell
JSON from anything else.
-/

namespace Headroom.MediaType

/-- The characters of names in a media type. -/
def isToken (char : Char) : Bool :=
  char.isAlphanum || "!#$%&'*+-.^_|~".toList.contains char || char.toNat = 0x60

def isQuotable (char : Char) : Bool := 0x1F < char.toNat && char.toNat < 0x7F && char != '"'

/-- What follows a quoted value and the blanks after it; the text starts after the opening
quote.  No quoted value is empty, so a quote as its first character belongs to it. -/
def afterQuoted? : List Char → Option (List Char)
  | [] => none
  | first :: rest =>
    if isQuotable first || first = '"' then
      match rest.dropWhile isQuotable with
      | '"' :: after => some (after.dropWhile (· = ' '))
      | _ => none
    else none

/-- Whether parameters are well formed: names with values, plain or quoted, each after a
semicolon.  The text starts after a semicolon. -/
def parametersAllowed : Nat → List Char → Bool
  | 0, _ => false
  | _, [] => true
  | fuel + 1, ' ' :: rest => parametersAllowed fuel rest
  | fuel + 1, text =>
    let name := text.takeWhile isToken
    match text.dropWhile isToken with
    | '=' :: '"' :: value =>
      if name.isEmpty then false
      else
        match afterQuoted? value with
        | some [] => true
        | some (';' :: rest) => parametersAllowed fuel rest
        | _ => false
    | '=' :: value =>
      if name.isEmpty then false
      else
        match value.dropWhile isToken with
        | [] => true
        | ';' :: rest => !(value.takeWhile isToken).isEmpty && parametersAllowed fuel rest
        | _ => false
    | _ => false

/-- The subtype before its last plus sign, and the suffix after it. -/
def splitSuffix (subtype : List Char) : List Char × Option (List Char) :=
  let suffix := (subtype.reverse.takeWhile (· != '+')).reverse
  let before := subtype.take (subtype.length - suffix.length - 1)
  if before.isEmpty then (subtype, none) else (before, some suffix)

/-- Whether a content type is JSON: the type is application, and either the subtype or the
suffix of the subtype is json. -/
def isJson (text : String) : Bool :=
  let characters := text.toLower.toList
  let kind := characters.takeWhile isToken
  match characters.dropWhile isToken with
  | '/' :: rest =>
    let subtype := rest.takeWhile isToken
    let parameters := rest.dropWhile isToken
    let (main, suffix) := splitSuffix subtype
    kind == "application".toList && (main == "json".toList || suffix == some "json".toList) &&
      match parameters with
      | [] => true
      | ';' :: rest => parametersAllowed (rest.length + 1) rest
      | _ => false
  | _ => false

end Headroom.MediaType
