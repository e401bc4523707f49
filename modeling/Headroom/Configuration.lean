import Headroom.Configuration.Lenient
import Headroom.Configuration.Overlay
import Headroom.Json.Scanner
import Headroom.Json.Sorted
import Headroom.Storage.Disk

/-!
# Configuration

How a service is set up: by a file, over which variables of the environment are
laid, and by defaults for everything that neither of them gives.
-/

namespace Headroom

/-- The variables of an environment with their values. -/
abbrev Environment := List (String × String)

/-- The set-up of a service. -/
structure Configuration where
  /-- The name of the service in the log. -/
  instanceName : String
  apiPort : UInt16
  /-- The seconds between two maintenance passes. -/
  maintenanceSeconds : UInt64
  /-- Where snapshots are saved, if they are. -/
  snapshotPath : Option String
  settings : Settings Float

/-- Why there is no configuration. -/
inductive ConfigurationFault where
  | unreadable
  | malformed
  | noInterval
  | invalid (fault : SettingsFault Float)

def ConfigurationFault.message : ConfigurationFault → String
  | unreadable => "Failed to read configuration"
  | malformed => "Failed to parse configuration"
  | noInterval => "maintenance_interval_secs must be positive"
  | invalid fault => fault.message

namespace Configuration

def fileVariable : String := "BALANCER_CONFIG"

/-- What the variables of a configuration start with, in lower case. -/
def variableStart : List Char := "balancer_".toList

/-- The name of the service, unless it is given: that of the host, if that is known. -/
def defaultInstanceName (environment : Environment) : String :=
  (environment.lookup "HOSTNAME").getD "balancer-engine"

/-- The configuration of an environment that says nothing else. -/
def default (environment : Environment) : Configuration :=
  ⟨defaultInstanceName environment, 8080, 10, none, .default⟩

/-- The value that the text of a variable stands for. -/
def variableValue (text : String) : Json :=
  let word := text.toLower
  if word = "true" then .bool true
  else if word = "false" then .bool false
  else
    match Decimal.int64? text, Decimal.float? text with
    | some value, _ => .integer value
    | none, some value => .number (.float value)
    | none, none => .string text

/-- The key that a variable sets, if it belongs to the configuration.  Two underscores lead
to a member. -/
def variableKey? (name : String) : Option String :=
  let letters := (Text.lowerName name).toList
  if letters.take variableStart.length = variableStart then
    some ((String.ofList (letters.drop variableStart.length)).replace "__" ".")
  else none

/-- The keys and values that an environment gives. -/
def ofEnvironment (environment : Environment) : List (String × Json) :=
  environment.filterMap fun (name, text) =>
    (variableKey? name).map fun key => (key, variableValue text)

/-- The text of a file without the mark that may stand at its start. -/
def withoutMark (text : String) : String :=
  match text.toList with
  | '\uFEFF' :: rest => String.ofList rest
  | _ => text

/-- The keys and values that the text of a file gives. -/
def ofFile? (text : String) : Option (List (String × Json)) :=
  match readText (Draft.toJson Draft.depthLimit) (withoutMark text) with
  | .ok value =>
    match value.sorted with
    | .object members => some members
    | _ => none
  | .error _ => none

def recordReader (environment : Environment) : RecordReader Configuration :=
  RecordReader.nothing Configuration.mk
    |>.field (.withDefault "instance" Lenient.text (defaultInstanceName environment))
    |>.field (.withDefault "api_port" Lenient.port (default environment).apiPort)
    |>.field (.withDefault "maintenance_interval_secs" Lenient.natural
      (default environment).maintenanceSeconds)
    |>.field (.optional "snapshot_path" Lenient.text)
    |>.field (.withDefault "engine" (Settings.readerBy Lenient.rules) .default)

/-- Whether a service can run with a configuration. -/
def validate (configuration : Configuration) : Except ConfigurationFault Unit :=
  if configuration.maintenanceSeconds = 0 then .error .noInterval
  else
    match configuration.settings.validate with
    | .ok () => .ok ()
    | .error fault => .error (.invalid fault)

/-- The configuration of the sources, the later ones laid over the earlier ones. -/
def ofSources (environment : Environment) (sources : List (List (String × Json))) :
    Except ConfigurationFault Configuration :=
  let value := sources.foldl (fun before source => Overlay.lay source before) (.object [])
  match readJson (recordReader environment).read value with
  | none => .error .malformed
  | some configuration => do
    configuration.validate
    .ok configuration

def fileExtension : String := "json"

/-- The text of the configuration file that a path names.  A path that leads to a file has to end
in the extension of configuration files; to any other path the extension is added. -/
def fileText? (disk : Disk) (path : String) : Option String :=
  match disk.readFile? path with
  | some text => if Path.extension path = fileExtension then some text else none
  | none => disk.readFile? (Path.addExtension path fileExtension)

/-- Loads the configuration of an environment and of a file on a disk, if one is named. -/
def load (disk : Disk) (environment : Environment) (path : Option String) :
    Except ConfigurationFault Configuration :=
  match path with
  | none => ofSources environment [ofEnvironment environment]
  | some path =>
    match (fileText? disk path).bind ofFile? with
    | some source => ofSources environment [source, ofEnvironment environment]
    | none => .error .unreadable

/-- Loads the configuration of an environment, which may name a file. -/
def ofHost (disk : Disk) (environment : Environment) : Except ConfigurationFault Configuration :=
  load disk environment (environment.lookup fileVariable)

def toJson (configuration : Configuration) : Json :=
  .object [("instance", .string configuration.instanceName),
    ("api_port", .integer configuration.apiPort.toNat),
    ("maintenance_interval_secs", .natural configuration.maintenanceSeconds),
    ("snapshot_path", .nullable .string configuration.snapshotPath),
    ("engine", configuration.settings.toJson)]

end Configuration

end Headroom
