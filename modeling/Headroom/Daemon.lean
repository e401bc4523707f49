import Headroom.Configuration
import Headroom.Http.Api
import Headroom.Log.Filter

/-!
# The life of a service

A service reads its configuration, takes up the snapshot that was saved last,
answers requests, and saves once more when it is told to stop.  What happens on
the way is written to its log.
-/

namespace Headroom

/-- A service that runs. -/
structure Daemon where
  configuration : Configuration
  maintenance : Maintenance
  service : Service
  /-- The lines of the log, oldest first, without the events still in the engine's journal. -/
  log : List LogLine

namespace Daemon

def version : String := "0.1.0"

def greeting : LogLine := .of .info "Starting balancer-engine" []

/-- The line about the configuration that is used. -/
def configured (configuration : Configuration) : LogLine :=
  .of .info "Engine configured"
    [("instance", .string configuration.instanceName),
      ("api_port", .integer configuration.apiPort.toNat),
      ("maintenance_interval_secs", .natural configuration.maintenanceSeconds),
      ("snapshot_path", .string (Text.quotedPathOption configuration.snapshotPath))]

/-- Moves the events in the engine's journal to the log. -/
def settle (daemon : Daemon) : Daemon :=
  let (engine, events) := daemon.service.engine.takeJournal
  { daemon with
    service := { daemon.service with engine := engine }
    log := daemon.log ++ events.map (LogLine.ofEvent engine.instanceName) }

/-- Writes a line to the log, after all that happened before. -/
def write (daemon : Daemon) (line : LogLine) : Daemon :=
  let settled := daemon.settle
  { settled with log := settled.log ++ [line] }

def record (daemon : Daemon) (event : Event) : Daemon :=
  settle { daemon with service := { daemon.service with engine := daemon.service.engine.log event } }

/-- Says whether the service has started. -/
def setStarted (daemon : Daemon) (started : Bool) : Daemon :=
  { daemon with
    service := { daemon.service with health := daemon.service.health.setStarted started } }

/-- Takes up the snapshot that was saved last.  Returns the number of restored nodes; without a
usable snapshot the service starts empty. -/
def takeUp (daemon : Daemon) (clock : Clock) : Daemon × Nat :=
  match daemon.maintenance.store with
  | none => (daemon, 0)
  | some store =>
    match store.load daemon.service.disk with
    | .ok (some snapshot) =>
      let (engine, restored) := daemon.service.engine.restore snapshot
      ({ daemon with service := { daemon.service with engine := engine } }, restored)
    | .ok none =>
      (daemon.write (.of .info "No snapshot to restore" [("store", .string store.describe)]), 0)
    | .error fault =>
      let health := daemon.service.health.note clock.wall Component.snapshotStore.name
        (some fault.chain)
      let warned := daemon.write (.of .warn "Failed to restore snapshot, starting empty"
        [("error", .string fault.message)])
      ({ warned with service := { warned.service with health := health } }, 0)

def start (clock : Clock) (disk : Disk) (configuration : Configuration) :
    Except ConfigurationFault Daemon :=
  match Engine.ofSettings configuration.settings configuration.instanceName with
  | .error fault => .error (.invalid fault)
  | .ok engine =>
    let fresh : Daemon :=
      { configuration := configuration
        maintenance := .fresh (configuration.snapshotPath.map SnapshotFile.mk)
        service := ⟨engine, Health.empty.registerAll clock.wall, disk⟩
        log := [greeting, configured configuration] }
    let (daemon, restored) := fresh.takeUp clock
    .ok ((daemon.record (.startup version restored)).setStarted true)

def answer (daemon : Daemon) (clock : Clock) (request : Request) : Daemon × Response :=
  let (service, response) := Api.handle clock daemon.service request
  ({ daemon with service := service }, response)

/-- Answers requests, one after the other. -/
def answerAll (clock : Clock) (daemon : Daemon) : List Request → Daemon × List Response
  | [] => (daemon, [])
  | request :: rest =>
    let (next, response) := daemon.answer clock request
    let (last, responses) := answerAll clock next rest
    (last, response :: responses)

/-- Why a service stops. -/
inductive Cause where
  | interrupted
  /-- The service could not listen for requests. -/
  | notListening (error : String)
  deriving DecidableEq, Repr

def Cause.reason : Cause → String
  | interrupted => "SIGINT received"
  | notListening _ => "API server failed"

/-- What is wrong with a port that another program listens on. -/
def portTaken : Cause := .notListening "Address already in use (os error 98)"

/-- Stops a service, which saves once more. -/
def stop (daemon : Daemon) (clock : Clock) (cause : Cause) : Daemon :=
  let told :=
    match cause with
    | .interrupted => daemon
    | .notListening error =>
      daemon.write (.of .error cause.reason [("error", .string error)])
  let stopping := (told.record (.shutdown cause.reason)).setStarted false
  let service := stopping.maintenance.runUntilShutdown clock stopping.service 0
  { stopping with service := service }.write (.of .info "Shutdown complete" [])

/-- What a run of a service leaves behind. -/
structure Run where
  fault : Option ConfigurationFault
  responses : List Response
  log : List LogLine
  disk : Disk

/-- Runs a service in an environment until it is interrupted after the given requests, or stops
by itself because its port is taken. -/
def run (clock : Clock) (environment : Environment) (disk : Disk) (isPortTaken : Bool)
    (requests : List Request) : Run :=
  match (Configuration.ofHost disk environment).bind (start clock disk) with
  | .error fault => ⟨some fault, [], [greeting], disk⟩
  | .ok daemon =>
    let (served, responses) := daemon.answerAll clock (if isPortTaken then [] else requests)
    let stopped := served.stop clock (if isPortTaken then portTaken else .interrupted)
    ⟨none, responses, stopped.log, stopped.service.disk⟩

/-- The lines of a run that its environment wants to see. -/
def Run.shown (run : Run) (environment : Environment) : List LogLine :=
  run.log.filter (LogFilter.ofWish (environment.lookup "RUST_LOG")).shows

end Daemon

end Headroom
