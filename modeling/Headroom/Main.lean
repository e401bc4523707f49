import Headroom.Daemon
import Headroom.Operator.Console
import Mathlib.Tactic.DeprecateTo

/-!
# The program

Runs a service inside this process.  With the argument `serve` it answers the
requests on standard input, one per line: method, target and content, separated by
blanks.  Any other arguments are those of the operator's console, whose calls this
service answers.  The service takes up the snapshot that its configuration names,
and saves it again at the end.

Times are those of the system, which `Mathlib.Tactic.DeprecateTo` passes on from the
standard library.
-/

namespace Headroom.Program

def variableNames : List String :=
  let keys := ["INSTANCE", "API_PORT", "MAINTENANCE_INTERVAL_SECS", "SNAPSHOT_PATH",
    "ENGINE__WINDOW__MAX_SAMPLES", "ENGINE__WINDOW__MAX_AGE_SECS",
    "ENGINE__SCORING__CPU_CAPACITY", "ENGINE__SCORING__NETWORK_LATENCY_CEILING_MS",
    "ENGINE__SCORING__NETWORK_THROUGHPUT_CAPACITY", "ENGINE__SCORING__LATENCY_SHARE",
    "ENGINE__SCORING__WEIGHTS__CPU", "ENGINE__SCORING__WEIGHTS__MEMORY",
    "ENGINE__SCORING__WEIGHTS__NETWORK", "ENGINE__SCORING__WEIGHTS__AVAILABILITY",
    "ENGINE__CLASSIFIER__LOW_THRESHOLD", "ENGINE__CLASSIFIER__HIGH_THRESHOLD",
    "ENGINE__CLASSIFIER__LOW_MARGIN", "ENGINE__CLASSIFIER__HIGH_MARGIN",
    "ENGINE__REGISTRY__CAPACITY", "ENGINE__REGISTRY__SILENCE_TIMEOUT_SECS",
    "ENGINE__REGISTRY__SUNDOWN_RETENTION_SECS", "ENGINE__REGISTRY__AUDIT_LOG_SIZE"]
  ["HOSTNAME", "RUST_LOG", Configuration.fileVariable] ++ keys.map ("BALANCER_" ++ ·)

def environment : IO Environment :=
  variableNames.filterMapM fun name => do
    return (← IO.getEnv name).map fun value => (name, value)

/-- The text of a file that can be read. -/
def readFile? (path : String) : IO (Option String) := do
  try
    return some (← IO.FS.readFile path)
  catch _ => return none

/-- A disk with one more file, if it can be read. -/
def withFile (disk : Disk) (path : Option String) : IO Disk := do
  match path with
  | none => return disk
  | some path =>
    match ← readFile? path with
    | some text => return disk.provide path text
    | none => return disk

/-- The current times since the Unix epoch. -/
def clock : IO Clock := do
  let now ← Std.Time.Timestamp.now
  return ⟨.ofInt now.toMillisecondsSinceUnixEpoch.toInt, .ofInt now.toSecondsSinceUnixEpoch.toInt⟩

/-- Writes the snapshot of a service that has stopped. -/
def saveSnapshot (daemon : Daemon) : IO Unit := do
  let some path := daemon.configuration.snapshotPath | return
  let some (.file text) := daemon.service.disk.find? path | return
  if let some parent := Path.parent? path then
    if !parent.isEmpty then IO.FS.createDirAll parent
  IO.FS.writeFile path text

/-- Stops a service, saves its snapshot and prints its log. -/
def finish (host : Environment) (daemon : Daemon) : IO Unit := do
  let stopped := daemon.stop (← clock) .interrupted
  saveSnapshot stopped
  let filter := LogFilter.ofWish (host.lookup "RUST_LOG")
  for line in stopped.log.filter filter.shows do
    IO.eprintln line.toJson.compact

def requestOf (line : String) : Request :=
  let blank := fun (char : Char) => char = ' '
  let text := (line.toList.reverse.dropWhile (· = '\n')).reverse
  let method := text.takeWhile fun char => !blank char
  let rest := (text.dropWhile fun char => !blank char).dropWhile blank
  let target := rest.takeWhile fun char => !blank char
  let content := (rest.dropWhile fun char => !blank char).dropWhile blank
  .of (String.ofList method) (String.ofList target) (some "application/json") (String.ofList content)

partial def serve (daemon : Daemon) (input : IO.FS.Stream) : IO Daemon := do
  let line ← input.getLine
  if line.isEmpty then return daemon
  let (next, response) := daemon.answer (← clock) (requestOf line)
  IO.println (Status.describe response.status ++ " " ++ Operator.textOf response)
  serve next input

/-- The calls that a service in this process answers: those to its own address. -/
def network (now : Clock) : Operator.Network Daemon := fun url request => do
  let daemon ← get
  let isHere := url.scheme == "http" && (url.host == "localhost" || url.host == "127.0.0.1") &&
    url.port == some daemon.configuration.apiPort.toNat
  if isHere then
    let (next, response) := daemon.answer now request
    set next
    return some response
  else return none

/-- What is said instead of carrying out arguments. -/
def noteText : Operator.UsageNote → String
  | .unknownArgument => "an argument is not known"
  | .invalidValue => "an option needs a value that it accepts"
  | .valueValidation => "a value is not a number in range"
  | .missingRequiredArgument => "an id is missing"
  | .missingSubcommand => "a command is missing"
  | .invalidSubcommand => "a command is not known"
  | .argumentConflict => "an argument is given twice"
  | .tooManyValues => "an option takes no value"
  | .displayHelp | .displayHelpOnMissingCommand =>
    "commands: " ++ String.intercalate ", " Operator.commandNames
  | .displayVersion => Daemon.version

def console (daemon : Daemon) (arguments : List String) : IO (Daemon × UInt32) := do
  match Operator.parseArguments (← IO.getEnv "RBCTL_API_URL") arguments with
  | .error note =>
    IO.eprintln (noteText note)
    return (daemon, 2)
  | .ok invocation =>
    let home := (← IO.getEnv "HOME").getD ""
    let preferences ← readFile? (home ++ "/.config/rbctl/config.json")
    let (shown, next) := invocation.run (network (← clock)) ⟨false⟩ preferences daemon
    IO.print shown.output
    match shown.failure with
    | some failure =>
      IO.eprintln ("Error: " ++ failure.message)
      return (next, 1)
    | none => return (next, 0)

def startUp (host : Environment) : IO (Except ConfigurationFault Daemon) := do
  let disk ← withFile .empty (host.lookup Configuration.fileVariable)
  match Configuration.ofHost disk host with
  | .error fault => return .error fault
  | .ok configuration =>
    return Daemon.start (← clock) (← withFile disk configuration.snapshotPath) configuration

end Headroom.Program

/-- Starts a service, lets it work, and stops it. -/
def main (arguments : List String) : IO UInt32 := do
  let host ← Headroom.Program.environment
  match ← Headroom.Program.startUp host with
  | .error fault =>
    IO.eprintln ("Error: " ++ fault.message)
    return 1
  | .ok daemon =>
    let (last, code) ←
      if arguments = ["serve"] then
        pure (← Headroom.Program.serve daemon (← IO.getStdin), 0)
      else Headroom.Program.console daemon arguments
    Headroom.Program.finish host last
    return code
