import Headroom.Engine
import Headroom.Health
import Headroom.Storage.SnapshotFile

/-!
# Maintenance

A maintenance pass sweeps the engine, judges the components by what happened
since the pass before, and saves a snapshot.  One more snapshot is saved at the
end.
-/

namespace Headroom

/-- An engine with the reports about it and the disk it saves to. -/
structure Service where
  engine : Engine
  health : Health
  disk : Disk

/-- The current times: that of the engine in milliseconds, and that of the health reports in
seconds. -/
structure Clock where
  engine : Int64
  wall : Int64
  deriving DecidableEq, Repr

/-- What maintenance remembers between its passes. -/
structure Maintenance where
  /-- Where snapshots are saved, if they are. -/
  store : Option SnapshotFile
  /-- The accepted and the refused samples at the pass before. -/
  accepted : UInt64
  rejected : UInt64
  deriving DecidableEq, Repr

namespace Maintenance

def fresh (store : Option SnapshotFile) : Maintenance := ⟨store, 0, 0⟩

/-- The fewest samples in an interval that can degrade the ingest. -/
def leastSamples : UInt64 := 10

/-- The share of refused samples above which the ingest is degraded. -/
def rejectionShare {α : Type} [Scalar α] : α := 0.5

/-- The growth of a counter; none for a counter that shrank. -/
def growth (before now : UInt64) : UInt64 := if before ≤ now then now - before else 0

/-- What is wrong with the ingest: most of many samples were refused.  The share of the refused
ones is a number of the given type. -/
def ingestProblem (α : Type) [Scalar α] (accepted rejected : UInt64) : Option String :=
  let seen := accepted + rejected
  let share : α := Scalar.ofCount rejected.toNat / Scalar.ofCount seen.toNat
  if seen < leastSamples then none
  else if rejectionShare < share then
    some (Decimal.digitsOf rejected.toNat ++ " of " ++ Decimal.digitsOf seen.toNat ++
      " samples rejected since last pass")
  else none

/-- What is wrong with the registry: it has no place left. -/
def registryProblem (statistics : Statistics) : Option String :=
  match statistics.capacity with
  | some capacity =>
    if capacity ≤ statistics.nodesTracked then
      some ("registry at capacity (" ++ Decimal.digitsOf capacity.toNat ++ " nodes)")
    else none
  | none => none

/-- Saves a snapshot, if snapshots are saved, and reports how that went. -/
def persist (maintenance : Maintenance) (clock : Clock) (service : Service) : Service :=
  match maintenance.store with
  | none => service
  | some store =>
    let (engine, snapshot) := service.engine.snapshot clock.engine
    let (disk, result) := store.save service.disk snapshot
    let problem :=
      match result with
      | .ok () => none
      | .error fault => some fault.chain
    { engine := engine
      disk := disk
      health := service.health.note clock.wall Component.snapshotStore.name problem }

/-- A pass that judges the share of refused samples in numbers of a given type. -/
def passBy (α : Type) [Scalar α] (maintenance : Maintenance) (clock : Clock) (service : Service) :
    Maintenance × Service × Sweep :=
  let (swept, report) := service.engine.sweep clock.engine
  let (counted, statistics) := swept.statistics clock.engine
  let accepted := statistics.samplesAccepted
  let rejected := swept.tally.rejected.total
  let problem := ingestProblem α (growth maintenance.accepted accepted)
    (growth maintenance.rejected rejected)
  let health := service.health.setHealthy clock.wall Component.maintenance.name
    |>.note clock.wall Component.ingest.name problem
    |>.note clock.wall Component.registry.name (registryProblem statistics)
  let next := { maintenance with accepted := accepted, rejected := rejected }
  let judged := { service with engine := counted, health := health }
  (next, maintenance.persist clock judged, report)

def pass (maintenance : Maintenance) (clock : Clock) (service : Service) :
    Maintenance × Service × Sweep :=
  maintenance.passBy Float clock service

def passes (maintenance : Maintenance) (clock : Clock) (service : Service) :
    Nat → Maintenance × Service
  | 0 => (maintenance, service)
  | count + 1 =>
    let (next, after, _) := maintenance.pass clock service
    next.passes clock after count

/-- Makes passes and then saves for the last time. -/
def runUntilShutdown (maintenance : Maintenance) (clock : Clock) (service : Service)
    (count : Nat) : Service :=
  let (last, after) := maintenance.passes clock service count
  last.persist clock after

end Maintenance

end Headroom
