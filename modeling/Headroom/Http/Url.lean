import Headroom.Http.Host

/-!
# Addresses

Absolute addresses and the addresses reached from them by a relative path.  An
address has a scheme, and either a place on a host with a path of segments, or an
opaque rest from which nothing can be reached.
-/

namespace Headroom

/-- An absolute address. -/
structure Url where
  scheme : String
  /-- The host, in lower case; empty where the scheme needs none. -/
  host : String
  /-- The port, unless it is the usual one. -/
  port : Option Nat
  path : List String
  /-- Whether the rest after the scheme is no path. -/
  opaqueRest : Bool
  query : Option String
  deriving DecidableEq, Repr

namespace Url

/-- Drops the blanks around an address and the line breaks and tabs within it. -/
def clean (text : String) : List Char :=
  let isOuter := fun (char : Char) => char.toNat ≤ 0x20
  let trimmed := ((text.toList.dropWhile isOuter).reverse.dropWhile isOuter).reverse
  trimmed.filter fun char => !(char = '\t' || char = '\n' || char = '\r')

/-- Whether a character may stand in a scheme after its first letter. -/
def isSchemeChar (char : Char) : Bool :=
  char.isAlphanum || char = '+' || char = '-' || char = '.'

/-- The scheme in front of a colon, and the rest. -/
def splitScheme? (text : List Char) : Option (String × List Char) :=
  match text with
  | first :: _ =>
    if first.isAlpha then
      match text.dropWhile isSchemeChar with
      | ':' :: rest => some ((String.ofList (text.takeWhile isSchemeChar)).toLower, rest)
      | _ => none
    else none
  | [] => none

/-- The schemes whose addresses always have a host, with their usual ports. -/
def usualPorts : List (String × Nat) :=
  [("http", 80), ("https", 443), ("ws", 80), ("wss", 443), ("ftp", 21)]

/-- Whether a character separates segments; schemes with a host allow the backslash too. -/
def isSeparator (hosted : Bool) (char : Char) : Bool := char = '/' || (hosted && char = '\\')

def endsPath (char : Char) : Bool := char = '?' || char = '#'

/-- The name and password before the last at sign of an authority, and the rest. -/
def splitUser (authority : List Char) : Option (List Char) × List Char :=
  let place := (authority.reverse.takeWhile (· != '@')).reverse
  if place.length = authority.length then (none, place)
  else (some (authority.take (authority.length - place.length - 1)), place)

/-- The host at the start of a text, up to a colon that does not stand in brackets, and the rest. -/
def splitHost (bracketed : Bool) : List Char → List Char × List Char
  | [] => ([], [])
  | char :: rest =>
    if char = ':' ∧ !bracketed then ([], char :: rest)
    else
      let (host, after) := splitHost (char = '[' || (bracketed && char != ']')) rest
      (char :: host, after)

/-- The port at the start of what follows a host, unless it is empty or the usual one, and the rest
from the first backslash. -/
def splitPort? (usual : Option Nat) (text : List Char) : Option (Option Nat × List Char) :=
  match text with
  | [] => some (none, [])
  | _ :: after =>
    let digits := after.takeWhile (· != '\\')
    let number := digits.foldl (fun value digit => value * 10 + (digit.toNat - '0'.toNat)) 0
    if !digits.all Char.isDigit || 65535 < number then none
    else
      some (if digits.isEmpty || some number = usual then none else some number,
        after.drop digits.length)

/-- Whether a character of a path is written as it is. -/
def isPathPlain (char : Char) : Bool :=
  0x20 < char.toNat && char.toNat < 0x7F && !("\"#<>?\x7b\x7d".toList.contains char) &&
    char.toNat != 0x60

/-- A segment as it is written in an address. -/
def writeSegment (segment : List Char) : String :=
  String.ofList (segment.flatMap fun char =>
    if isPathPlain char then [char] else (Text.encodeChar char).flatMap Percent.escape)

/-- Whether a segment stands for its own place. -/
def isSingleDot (segment : String) : Bool := segment.toLower == "." || segment.toLower == "%2e"

/-- Whether a segment leads to the place above. -/
def isDoubleDot (segment : String) : Bool :=
  ["..", ".%2e", "%2e.", "%2e%2e"].contains segment.toLower

/-- Walks along segments from a place, where the last segment may be empty. -/
def walk (place : List String) : List String → List String
  | [] => place
  | [last] =>
    if isDoubleDot last then place.dropLast ++ [""]
    else if isSingleDot last then place ++ [""]
    else place ++ [last]
  | segment :: rest =>
    if isDoubleDot segment then walk place.dropLast rest
    else if isSingleDot segment then walk place rest
    else walk (place ++ [segment]) rest

/-- The segments of a path without its first separator. -/
def segmentsOf (hosted : Bool) (path : List Char) : List String :=
  (Percent.cut '/' (path.map fun char => if isSeparator hosted char then '/' else char)).map
    writeSegment

/-- The path, and the query after it. -/
def splitPath (text : List Char) : List Char × Option String :=
  let path := text.takeWhile fun char => !endsPath char
  match text.dropWhile fun char => !endsPath char with
  | '?' :: rest => (path, some (String.ofList (rest.takeWhile (· != '#'))))
  | _ => (path, none)

def absolutePath (hosted : Bool) (path : List Char) : List String :=
  match path with
  | [] => if hosted then [""] else []
  | first :: rest =>
    if isSeparator hosted first then walk [] (segmentsOf hosted rest)
    else walk [] (segmentsOf hosted path)

/-- Whether nothing is missing around a name and password: there is a host where there is a name
or a password, and where a place follows them without a host. -/
def isComplete (user : Option (List Char)) (place rest : List Char) : Bool :=
  match user with
  | none => true
  | some [] => !place.isEmpty || rest.isEmpty
  | some [':'] => true
  | some _ => !(splitHost false place).1.isEmpty

/-- The address of an authority with what follows it. -/
def ofAuthority (scheme : String) (hosted : Bool) (text : List Char) : Option Url := do
  let isPart := fun (char : Char) => !isSeparator hosted char && !endsPath char
  let rest := text.dropWhile isPart
  let (user, place) := splitUser (text.takeWhile isPart)
  let (hostText, portText) := splitHost false place
  let host ← if hosted then Host.ofDomain? hostText else Host.ofText? hostText
  let (port, unread) ← splitPort? (usualPorts.lookup scheme) portText
  let (path, query) := splitPath (unread ++ rest)
  if !isComplete user place rest || (hostText.isEmpty && !portText.isEmpty) then none
  else some ⟨scheme, host, port, absolutePath hosted path, false, query⟩

/-- Whether a text names a drive, which is no host. -/
def isDrive : List Char → Bool
  | [letter, mark] => letter.isAlpha && (mark = ':' || mark = '|')
  | _ => false

def ofFile (text : List Char) : Option Url := do
  let isPart := fun (char : Char) => !isSeparator true char && !endsPath char
  let slashes := text.takeWhile (isSeparator true)
  let after := text.drop 2
  let hostText := if 2 ≤ slashes.length then after.takeWhile isPart else []
  let isHost := !hostText.isEmpty && !isDrive hostText
  let host ← if isHost then Host.ofDomain? hostText else some ""
  let rest := if isHost then after.dropWhile isPart else text.dropWhile (isSeparator true)
  let (path, query) := splitPath rest
  some ⟨"file", host, none, absolutePath true path, false, query⟩

def parse? (text : String) : Option Url := do
  let (scheme, rest) ← splitScheme? (clean text)
  if (usualPorts.lookup scheme).isSome then
    ofAuthority scheme true (rest.dropWhile (isSeparator true))
  else if scheme = "file" then ofFile rest
  else
    match rest with
    | '/' :: '/' :: text => ofAuthority scheme false text
    | '/' :: _ =>
      let (path, query) := splitPath rest
      some ⟨scheme, "", none, absolutePath false path, false, query⟩
    | _ =>
      let (path, query) := splitPath rest
      some ⟨scheme, "", none, [String.ofList path], true, query⟩

/-- The address reached by a relative path: it takes the place of the last segment. -/
def join? (base : Url) (path : String) : Option Url :=
  if base.opaqueRest then none
  else
    some { base with
      path := walk base.path.dropLast (segmentsOf true path.toList)
      query := none }

/-- The same address with a query of names and values. -/
def withQuery (url : Url) (fields : List (String × String)) : Url :=
  if fields.isEmpty then url else { url with query := some (Percent.formOf fields) }

def pathText (url : Url) : String := String.join (url.path.map ("/" ++ ·))

/-- The path and the query as they are written. -/
def target (url : Url) : String :=
  match url.query with
  | some query => url.pathText ++ "?" ++ query
  | none => url.pathText

end Url

end Headroom
