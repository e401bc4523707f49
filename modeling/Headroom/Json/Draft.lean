import Headroom.Json.Value

/-!
# Drafts of JSON documents

A draft is what a reader can see of a text up to its first fault.  Reading is
driven by the expected shape, so the fault that is reported depends on the order
in which the reader looks: a wrong shape near the beginning wins over a missing
bracket at the end.  A draft therefore keeps everything before a fault, and the
fault in its place.
-/

namespace Headroom

/-- Why a document could not be read. -/
inductive Fault where
  /-- The text is no JSON. -/
  | malformed
  /-- The value does not have the expected shape. -/
  | wrongShape
  /-- The text ends too early. -/
  | cutShort
  deriving DecidableEq, Repr

/-- How a list of items or members ends: with its bracket, or with a fault.  The fault
depends on what the reader is about to do, take one more entry or be done with the list.
A reader that wants a single word is done with an object at its start. -/
inductive Ending where
  | closed
  | broken (whenMore whenDone : Fault)
  deriving DecidableEq, Repr

/-- A document up to its first fault.  A number that is too large and a string with an
unpaired surrogate have no value, but the text after them can still be scanned. -/
inductive Draft where
  | null
  | bool (value : Bool)
  | number (value : Option Number)
  | string (value : Option String)
  | array (items : List Draft) (ending : Ending)
  | object (members : List (Draft × Draft)) (ending : Ending)
  /-- The text breaks off here; the fault may differ for a reader that skips the value. -/
  | broken (whenRead whenSkipped : Fault)

namespace Draft

instance inhabited : Inhabited Draft := ⟨null⟩

/-- The fault of a value that has another shape than the expected one.  A scalar is read
to its end before its shape is judged. -/
def mismatch : Draft → Fault
  | .number none => .malformed
  | .string none => .malformed
  | .broken whenRead _ => whenRead
  | _ => .wrongShape

/-- The fault of a member name that a skipping reader cannot pass. -/
def skippedName : Draft → Fault
  | .broken _ whenSkipped => whenSkipped
  | _ => .malformed

/-- The name of a member: a sound string. -/
def readName : Draft → Except Fault String
  | .string (some name) => .ok name
  | .broken whenRead _ => .error whenRead
  | _ => .error .malformed

mutual

/-- Passes over a value, whatever it holds. -/
def skip : Draft → Except Fault Unit
  | .broken _ whenSkipped => .error whenSkipped
  | .array items ending => skipItems items ending
  | .object members ending => skipMembers members ending
  | _ => .ok ()

def skipItems : List Draft → Ending → Except Fault Unit
  | [], .closed => .ok ()
  | [], .broken whenMore _ => .error whenMore
  | item :: rest, ending =>
    match skip item with
    | .error fault => .error fault
    | .ok () => skipItems rest ending

def skipMembers : List (Draft × Draft) → Ending → Except Fault Unit
  | [], .closed => .ok ()
  | [], .broken whenMore _ => .error whenMore
  | (.string _, value) :: rest, ending =>
    match skip value with
    | .error fault => .error fault
    | .ok () => skipMembers rest ending
  | (name, _) :: _, _ => .error name.skippedName

end

mutual

/-- The draft of a value: nothing in it is at fault. -/
def ofJson : Json → Draft
  | .null => .null
  | .bool value => .bool value
  | .number value => .number (some value)
  | .string value => .string (some value)
  | .array items => .array (ofItems items) .closed
  | .object members => .object (ofMembers members) .closed

def ofItems : List Json → List Draft
  | [] => []
  | item :: rest => ofJson item :: ofItems rest

def ofMembers : List (String × Json) → List (Draft × Draft)
  | [] => []
  | (name, value) :: rest => (.string (some name), ofJson value) :: ofMembers rest

end

mutual

/-- Reads a value of any shape, nested at most `depth` levels deep. -/
def toJson (depth : Nat) : Draft → Except Fault Json
  | .null => .ok .null
  | .bool value => .ok (.bool value)
  | .number (some value) => .ok (.number value)
  | .string (some value) => .ok (.string value)
  | .array items ending =>
    match depth with
    | 0 => .error .malformed
    | deeper + 1 => (toItems deeper items ending).map .array
  | .object members ending =>
    match depth with
    | 0 => .error .malformed
    | deeper + 1 => (toMembers deeper members ending).map .object
  | .number none => .error .malformed
  | .string none => .error .malformed
  | .broken whenRead _ => .error whenRead

def toItems (depth : Nat) : List Draft → Ending → Except Fault (List Json)
  | [], .closed => .ok []
  | [], .broken whenMore _ => .error whenMore
  | item :: rest, ending =>
    match toJson depth item with
    | .error fault => .error fault
    | .ok value => (toItems depth rest ending).map (value :: ·)

def toMembers (depth : Nat) :
    List (Draft × Draft) → Ending → Except Fault (List (String × Json))
  | [], .closed => .ok []
  | [], .broken whenMore _ => .error whenMore
  | (name, value) :: rest, ending =>
    match readName name with
    | .error fault => .error fault
    | .ok name =>
      match toJson depth value with
      | .error fault => .error fault
      | .ok value => (toMembers depth rest ending).map ((name, value) :: ·)

end

/-- The number of levels that a value of any shape may nest. -/
def depthLimit : Nat := 127

end Draft

end Headroom
