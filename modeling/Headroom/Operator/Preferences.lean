import Headroom.Json.Reader
import Headroom.Json.Scanner
import Headroom.Operator.Arguments

/-!
# Preferences

What an operator has written down once instead of giving it with every command.
What a command line says comes first, then the preferences, then the defaults.
-/

namespace Headroom.Operator

/-- What an operator prefers. -/
structure Preferences where
  apiUrl : Option String
  format : Option String
  deriving DecidableEq, Repr

namespace Preferences

/-- The address of a service when nobody names one. -/
def defaultUrl : String := "http://localhost:8080"

def none : Preferences := ⟨Option.none, Option.none⟩

def reader : Reader Preferences :=
  (RecordReader.nothing Preferences.mk
    |>.field (.nullable "api_url" Reader.string)
    |>.field (.nullable "default_format" Reader.string)).read

/-- Reads the text of preferences, if there is one. -/
def ofText : Option String → Except Fault Preferences
  | .some text => readText reader text
  | .none => .ok none

def urlFor (preferences : Preferences) (given : Option String) : String :=
  (given.orElse fun _ => preferences.apiUrl).getD defaultUrl

/-- What commands print.  A preference that is no format is passed over. -/
def formatFor (preferences : Preferences) (given : Option Format) : Format :=
  (given.orElse fun _ => preferences.format.bind Format.ofWordAnyCase?).getD .table

end Preferences

end Headroom.Operator
