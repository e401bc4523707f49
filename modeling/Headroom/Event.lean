import Headroom.Decimal.Layout
import Headroom.Json.Value
import Headroom.Text.Quoted
import Headroom.Transition

/-!
# Events

What the engine reports about itself while it works, in the order in which it
happens.  Each event has a level, a name, a message and fields.
-/

namespace Headroom

/-- How important an event is. -/
inductive Level where
  | debug
  | info
  | warn
  | error
  deriving DecidableEq, Repr

namespace Level

/-- The word that stands for a level in log lines. -/
def word : Level → String
  | debug => "DEBUG"
  | info => "INFO"
  | warn => "WARN"
  | error => "ERROR"

def rank : Level → Nat
  | debug => 0
  | info => 1
  | warn => 2
  | error => 3

end Level

/-- Something that happened to the engine. -/
inductive Event where
  | transition (transition : Transition)
  | rejection (id code error : String)
  | registration (id name : String) (created : Bool)
  | decommission (id : String) (previous : Category)
  | collection (ids : List String)
  | silence (ids : List String)
  | recovery (ids : List String)
  | startup (version : String) (restored : Nat)
  | shutdown (reason : String)

namespace Event

/-- The name under which an event is found in the log. -/
def name : Event → String
  | transition _ => "category_transition"
  | rejection .. => "sample_rejected"
  | registration .. => "node_registered"
  | decommission .. => "node_decommissioned"
  | collection _ => "nodes_collected"
  | silence _ => "nodes_stale"
  | recovery _ => "nodes_recovered"
  | startup .. => "engine_started"
  | shutdown _ => "engine_shutdown"

def level : Event → Level
  | rejection .. => .warn
  | silence _ => .warn
  | recovery _ => .debug
  | _ => .info

def message : Event → String
  | transition _ => "Utilization category changed"
  | rejection .. => "Sample rejected"
  | registration .. => "Node registered"
  | decommission .. => "Node moved to SUNDOWN"
  | collection _ => "Removed decommissioned nodes past retention"
  | silence _ => "Nodes stopped reporting"
  | recovery _ => "Nodes resumed reporting"
  | startup .. => "Scoring engine started"
  | shutdown _ => "Scoring engine shutting down"

/-- A score that may be absent, as log fields show it. -/
def scoreText : Option Float → String
  | some score => "Some(" ++ Decimal.Layout.field.write score ++ ")"
  | none => "None"

def details : Event → List (String × Json)
  | transition change =>
    [("node_id", .string change.id), ("from", .string change.source.word),
      ("to", .string change.target.word),
      ("triggering_score", .string (scoreText change.triggeringScore)),
      ("timestamp", .integer change.timestamp.toInt)]
  | rejection id code error =>
    [("node_id", .string id), ("code", .string code), ("error", .string error)]
  | registration id name created =>
    [("node_id", .string id), ("name", .string name), ("created", .bool created)]
  | decommission id previous =>
    [("node_id", .string id), ("previous", .string previous.word)]
  | collection ids => [("count", .integer ids.length), ("nodes", .string (Text.quotedList ids))]
  | silence ids => [("nodes", .string (Text.quotedList ids))]
  | recovery ids => [("nodes", .string (Text.quotedList ids))]
  | startup version restored =>
    [("engine_version", .string version), ("restored_nodes", .integer restored)]
  | shutdown reason => [("reason", .string reason)]

/-- The fields of an event in the log of a named instance. -/
def fields (event : Event) (instanceName : String) : List (String × Json) :=
  ("event", .string event.name) :: ("instance", .string instanceName) :: event.details

end Event

end Headroom
