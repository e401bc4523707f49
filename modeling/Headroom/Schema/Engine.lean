import Headroom.Engine
import Headroom.Health
import Headroom.Schema.Node

/-!
# Documents of the engine's answers

How requests, receipts, outcomes, statistics and health reports are written and
read.
-/

namespace Headroom

namespace Registration

def toJson (request : Registration) : Json :=
  .object ([("node_id", .string request.id)] ++ Json.given "name" .string request.name ++
    Json.given "container" Container.toJson request.container)

def reader : Reader Registration :=
  (RecordReader.nothing Registration.mk
    |>.field (.required "node_id" Reader.string)
    |>.field (.optional "name" Reader.string)
    |>.field (.optional "container" Container.reader)).read

end Registration

namespace Receipt

def members (receipt : Receipt) : List (String × Json) :=
  [("node_id", .string receipt.id), ("timestamp", .time receipt.timestamp),
    ("scores", receipt.scores.toJson), ("category", receipt.category.toJson),
    ("created", .bool receipt.created)] ++
  Json.given "transition" Transition.toJson receipt.transition

def toJson (receipt : Receipt) : Json := .object receipt.members

/-- Reads a receipt whose categories are read in a given way. -/
def readerBy (category : Reader Category) : Reader Receipt :=
  (RecordReader.nothing Receipt.mk
    |>.field (.required "node_id" Reader.string)
    |>.field (.required "timestamp" Reader.int64)
    |>.field (.required "scores" Scores.reader)
    |>.field (.required "category" category)
    |>.field (.required "created" Reader.bool)
    |>.field (.nullable "transition" (Transition.readerBy category))).read

def reader : Reader Receipt := readerBy Category.reader

end Receipt

namespace Outcome

/-- The member that tells the kinds of outcome apart. -/
def tag : String := "status"

/-- The kinds of outcome. -/
inductive Kind where
  | accepted
  | rejected
  deriving DecidableEq, Repr

def Kind.word : Kind → String
  | accepted => "accepted"
  | rejected => "rejected"

def Kind.ofWord? (text : String) : Option Kind :=
  [accepted, rejected].find? fun kind => kind.word == text

/-- Writes an outcome; the tag stands first among the members. -/
def toJson : Outcome → Json
  | accepted receipt => .object ((tag, .string Kind.accepted.word) :: receipt.members)
  | rejected id code error =>
    .object [(tag, .string Kind.rejected.word), ("node_id", .string id), ("code", .string code),
      ("error", .string error)]

/-- Reads the rest of an outcome of a known kind, which was put aside until the kind was known. -/
def ofKind : Kind → Reader Outcome
  | .accepted => fun draft => (Receipt.readerBy Category.readerAside draft).map accepted
  | .rejected =>
    (RecordReader.nothing rejected
      |>.field (.required "node_id" Reader.string)
      |>.field (.required "code" Reader.string)
      |>.field (.required "error" Reader.string)).read

def kindReader : Reader Kind
  | .string (some text) =>
    match Kind.ofWord? text with
    | some kind => .ok kind
    | none => .error .wrongShape
  | draft => .error draft.mismatch

/-- Reads the members of an outcome one after the other: the tag, which stands among them
once, and the others, whose shape cannot be judged before the tag is known. -/
def readMembers : Option Kind → List (Draft × Draft) → Ending →
    Except Fault (Kind × List (String × Json))
  | some kind, [], .closed => .ok (kind, [])
  | none, [], .closed => .error .wrongShape
  | _, [], .broken whenMore _ => .error whenMore
  | found, (name, value) :: rest, ending => do
    let name ← name.readName
    if name = tag then
      if found.isSome then .error .wrongShape
      else
        let kind ← kindReader value
        readMembers (some kind) rest ending
    else
      let value ← value.toJson (Draft.depthLimit - 1)
      let (kind, others) ← readMembers found rest ending
      .ok (kind, (name, value) :: others)

/-- Reads the rest of an outcome of a known kind, all of which is at hand. -/
def complete (kind : Kind) (rest : Json) : Except Fault Outcome :=
  match readJson (ofKind kind) rest with
  | some outcome => .ok outcome
  | none => .error .wrongShape

/-- Reads an outcome: an object with the tag among its members, or an array with the tag
in front. -/
def reader : Reader Outcome
  | .object members ending => do
    let (kind, rest) ← readMembers none members ending
    complete kind (.object rest)
  | .array [] .closed => .error .wrongShape
  | .array [] (.broken whenMore _) => .error whenMore
  | .array (word :: rest) ending => do
    let kind ← kindReader word
    let items ← Draft.toItems (Draft.depthLimit - 1) rest ending
    complete kind (.array items)
  | draft => .error draft.mismatch

end Outcome

namespace Statistics

def toJson (statistics : Statistics) : Json :=
  .object [("nodes_tracked", .natural statistics.nodesTracked),
    ("capacity", .nullable .natural statistics.capacity),
    ("samples_accepted", .natural statistics.samplesAccepted),
    ("samples_rejected", .ofDictionary .natural statistics.samplesRejected),
    ("transitions", .natural statistics.transitions),
    ("nodes_collected", .natural statistics.nodesCollected),
    ("stale_nodes", .natural statistics.staleNodes),
    ("nodes_by_category", .object (statistics.nodesByCategory.entries.map fun entry =>
      (entry.1.word, .natural entry.2)))]

/-- Reads a category that is the name of a member. -/
def categoryName (text : String) : Except Fault Category :=
  match Category.ofWord? text with
  | some category => .ok category
  | none => .error .wrongShape

def reader : Reader Statistics :=
  (RecordReader.nothing Statistics.mk
    |>.field (.required "nodes_tracked" Reader.uint64)
    |>.field (.nullable "capacity" Reader.uint64)
    |>.field (.required "samples_accepted" Reader.uint64)
    |>.field (.required "samples_rejected" (Reader.textDictionary Reader.uint64))
    |>.field (.required "transitions" Reader.uint64)
    |>.field (.required "nodes_collected" Reader.uint64)
    |>.field (.required "stale_nodes" Reader.uint64)
    |>.field (.required "nodes_by_category" (Reader.dictionary categoryName Reader.uint64))).read

end Statistics

namespace Condition

def toJson (condition : Condition) : Json := .string condition.word

def reader : Reader Condition := Reader.word ofWord?

end Condition

namespace ComponentReport

def toJson (report : ComponentReport) : Json :=
  .object ([("status", report.condition.toJson)] ++ Json.given "message" .string report.message ++
    [("last_check_timestamp", .time report.checkedAt)])

def reader : Reader ComponentReport :=
  (RecordReader.nothing ComponentReport.mk
    |>.field (.required "status" Condition.reader)
    |>.field (.nullable "message" Reader.string)
    |>.field (.required "last_check_timestamp" Reader.int64)).read

end ComponentReport

namespace HealthReport

/-- Writes a report with its components in the order in which they were handed out. -/
def toJsonOf (report : HealthReport) (components : List (String × ComponentReport)) : Json :=
  .object [("status", report.condition.toJson),
    ("components", .object (components.map fun entry => (entry.1, entry.2.toJson)))]

def toJson (report : HealthReport) : Json := report.toJsonOf report.components.entries

def reader : Reader HealthReport :=
  (RecordReader.nothing HealthReport.mk
    |>.field (.required "status" Condition.reader)
    |>.field (.required "components" (Reader.textDictionary ComponentReport.reader))).read

end HealthReport

def Readiness.toJson (readiness : Readiness) : Json :=
  .object ([("ready", .bool readiness.ready)] ++ Json.given "reason" .string readiness.reason)

end Headroom
