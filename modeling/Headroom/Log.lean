import Headroom.Event

/-!
# The log

Lines with a level and fields, each from one part of the program.
-/

namespace Headroom

/-- The part of the program that a line comes from. -/
inductive LogSource where
  /-- The program itself: how it starts and stops. -/
  | program
  /-- The engine's reports about its work. -/
  | events
  deriving DecidableEq, Repr

/-- The name under which a part of the program can be asked for. -/
def LogSource.name : LogSource → String
  | program => "balancer_engine"
  | events => "engine_lib::observability"

/-- A line of the log. -/
structure LogLine where
  source : LogSource
  level : Level
  fields : List (String × Json)

namespace LogLine

/-- A line with a message and further fields. -/
def ofMessage (source : LogSource) (level : Level) (message : String)
    (fields : List (String × Json)) : LogLine :=
  ⟨source, level, fields ++ [("message", .string message)]⟩

def of (level : Level) (message : String) (fields : List (String × Json)) : LogLine :=
  ofMessage .program level message fields

/-- The line for an event of a named instance. -/
def ofEvent (instanceName : String) (event : Event) : LogLine :=
  ofMessage .events event.level event.message (event.fields instanceName)

/-- Whether a line has a field of a name. -/
def hasField (line : LogLine) (name : String) : Bool := line.fields.any fun field => field.1 == name

def toJson (line : LogLine) : Json :=
  .object [("level", .string line.level.word), ("fields", .object line.fields)]

end LogLine

end Headroom
