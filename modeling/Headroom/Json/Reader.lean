import Headroom.Dictionary
import Headroom.Json.Draft

/-!
# Reading typed values

Readers turn a draft into a typed value.  A record may be written as an object or
as an array of its fields in declaration order; a field says what stands in for
it when an object lacks it and when an array ends before it.  Members are read in
the order of the document, so the first fault of the text is the one reported.
-/

namespace Headroom

/-- Reads a value of one type from a draft. -/
abbrev Reader (α : Type) := Draft → Except Fault α

namespace Reader

def bool : Reader Bool
  | .bool value => .ok value
  | draft => .error draft.mismatch

def string : Reader String
  | .string (some value) => .ok value
  | draft => .error draft.mismatch

def float : Reader Float
  | .number (some (.integer value)) => .ok (Float.ofInt value)
  | .number (some (.float value)) => .ok value
  | draft => .error draft.mismatch

def integer (least greatest : Int) : Reader Int
  | .number (some (.integer value)) =>
    if least ≤ value ∧ value ≤ greatest then .ok value else .error .wrongShape
  | draft => .error draft.mismatch

def int64 : Reader Int64 := fun draft =>
  (integer Int64.minValue.toInt Int64.maxValue.toInt draft).map Int64.ofInt

def uint64 : Reader UInt64 := fun draft =>
  (integer 0 (UInt64.size - 1 : Nat) draft).map fun value => UInt64.ofNat value.toNat

def optional {α : Type} (reader : Reader α) : Reader (Option α)
  | .null => .ok none
  | draft => (reader draft).map some

def items {α : Type} (reader : Reader α) : List Draft → Ending → Except Fault (List α)
  | [], .closed => .ok []
  | [], .broken whenMore _ => .error whenMore
  | item :: rest, ending =>
    match reader item with
    | .error fault => .error fault
    | .ok value => (items reader rest ending).map (value :: ·)

def list {α : Type} (reader : Reader α) : Reader (List α)
  | .array entries ending => items reader entries ending
  | draft => .error draft.mismatch

def members {κ α : Type} (key : String → Except Fault κ) (reader : Reader α) :
    List (Draft × Draft) → Ending → Except Fault (List (κ × α))
  | [], .closed => .ok []
  | [], .broken whenMore _ => .error whenMore
  | (name, value) :: rest, ending =>
    match name.readName.bind key with
    | .error fault => .error fault
    | .ok name =>
      match reader value with
      | .error fault => .error fault
      | .ok value => (members key reader rest ending).map ((name, value) :: ·)

/-- Reads an object with arbitrary names; of two members with one name the later counts. -/
def dictionary {κ α : Type} [LT κ] [DecidableLT κ] [KeyOrder κ]
    (key : String → Except Fault κ) (reader : Reader α) : Reader (Dictionary κ α)
  | .object entries ending => (members key reader entries ending).map Dictionary.ofList
  | draft => .error draft.mismatch

def textDictionary {α : Type} (reader : Reader α) : Reader (Dictionary String α) :=
  dictionary .ok reader

/-- Reads a word of an enumeration: a string, or an object with the word as its only
member; `content` reads what the word may be followed by. -/
def wordWith {α : Type} (content : Reader Unit) (find? : String → Option α) : Reader α
  | .string (some text) =>
    match find? text with
    | some value => .ok value
    | none => .error .wrongShape
  | .object ((name, inner) :: rest) ending => do
    let text ← string name
    match find? text with
    | none => .error .wrongShape
    | some value =>
      content inner
      match rest, ending with
      | [], .closed => .ok value
      | [], .broken _ whenDone => .error whenDone
      | _ :: _, _ => .error .malformed
  | .object [] (.broken _ whenDone) => .error whenDone
  | .broken whenRead _ => .error whenRead
  | _ => .error .malformed

def nothing : Reader Unit
  | .null => .ok ()
  | draft => .error draft.mismatch

/-- Reads a null or an object without members. -/
def nothingOrEmpty : Reader Unit
  | .object [] .closed => .ok ()
  | draft => nothing draft

/-- Reads a word of an enumeration, which may be a member with null as its value. -/
def word {α : Type} (find? : String → Option α) : Reader α := wordWith nothing find?

/-- Reads a word of an enumeration from a value that was put aside until its shape was known.
There the word may also be a member with an empty object as its value. -/
def wordAside {α : Type} (find? : String → Option α) : Reader α := wordWith nothingOrEmpty find?

end Reader

/-- One field of a record. -/
structure Field (α : Type) where
  name : String
  read : Reader α
  /-- What stands in for the field in an object without it. -/
  whenMissing : Option α
  /-- What stands in for the field in an array that ends before it. -/
  whenShort : Option α

namespace Field

variable {α : Type}

def required (name : String) (read : Reader α) : Field α := ⟨name, read, none, none⟩

def withDefault (name : String) (read : Reader α) (default : α) : Field α :=
  ⟨name, read, some default, some default⟩

/-- A field that may be missing or null. -/
def optional (name : String) (read : Reader α) : Field (Option α) :=
  ⟨name, read.optional, some none, some none⟩

/-- A field that may be missing or null in an object, but must have its place in an array. -/
def nullable (name : String) (read : Reader α) : Field (Option α) :=
  ⟨name, read.optional, some none, none⟩

end Field

/-- How the fields of a record are read. -/
structure RecordReader (α : Type) where
  /-- The names in declaration order, each with the check that its value is readable. -/
  names : List (String × Reader Unit)
  /-- Builds the record from the members of an object that passed the checks. -/
  fromMembers : (String → Option Draft) → Except Fault α
  /-- Builds the record from array items, and returns the items after it. -/
  fromItems : List Draft → Ending → Except Fault (α × List Draft)

namespace RecordReader

variable {α β : Type}

def nothing (value : α) : RecordReader α :=
  ⟨[], fun _ => .ok value, fun items _ => .ok (value, items)⟩

/-- Reads one more field after those of a record that still waits for it. -/
def field (earlier : RecordReader (β → α)) (next : Field β) : RecordReader α where
  names := earlier.names ++ [(next.name, fun draft => (next.read draft).map fun _ => ())]
  fromMembers := fun find => do
    let build ← earlier.fromMembers find
    match find next.name with
    | some draft => (next.read draft).map build
    | none =>
      match next.whenMissing with
      | some value => .ok (build value)
      | none => .error .wrongShape
  fromItems := fun items ending => do
    let (build, rest) ← earlier.fromItems items ending
    match rest with
    | item :: rest =>
      let value ← next.read item
      .ok (build value, rest)
    | [] =>
      match ending with
      | .broken whenMore _ => .error whenMore
      | .closed =>
        match next.whenShort with
        | some value => .ok (build value, [])
        | none => .error .wrongShape

/-- Checks the members of an object in the order of the document: no field twice, each
field readable, everything else passed over.  Returns the members that are fields. -/
def collect (names : List (String × Reader Unit)) :
    List (String × Draft) → List (Draft × Draft) → Ending →
      Except Fault (List (String × Draft))
  | found, [], .closed => .ok found
  | _, [], .broken whenMore _ => .error whenMore
  | found, (name, value) :: rest, ending =>
    match name.readName with
    | .error fault => .error fault
    | .ok name =>
      match names.lookup name with
      | none =>
        match value.skip with
        | .error fault => .error fault
        | .ok () => collect names found rest ending
      | some check =>
        if (found.lookup name).isSome then .error .wrongShape
        else
          match check value with
          | .error fault => .error fault
          | .ok () => collect names ((name, value) :: found) rest ending

/-- Reads a record in either of its forms. -/
def read (record : RecordReader α) : Reader α
  | .object members ending => do
    let found ← collect record.names [] members ending
    record.fromMembers fun name => found.lookup name
  | .array items ending => do
    let (value, rest) ← record.fromItems items ending
    match rest, ending with
    | [], .closed => .ok value
    | [], .broken _ whenDone => .error whenDone
    | _ :: _, _ => .error .malformed
  | draft => .error draft.mismatch

/-- Reads a record in either of its forms; items after those of its fields are passed over. -/
def readLeading (record : RecordReader α) : Reader α
  | .array items ending => (record.fromItems items ending).map (·.1)
  | draft => record.read draft

end RecordReader

/-- Reads a value that is already complete, so that every fault is one of its shape. -/
def readJson {α : Type} (reader : Reader α) (value : Json) : Option α :=
  (reader (Draft.ofJson value)).toOption

end Headroom
