import Headroom.Json.Printer
import Headroom.Json.Scanner
import Headroom.Schema.Node
import Headroom.Storage.Disk
import Headroom.Text.Quoted

/-!
# Snapshot files

A snapshot is kept in a file.  Saving writes a second file beside it and puts
that in its place at the very end, so whatever goes wrong before leaves the
earlier snapshot as it was, provided that the second file is another one.
-/

namespace Headroom

/-- One step of saving a file. -/
inductive SaveStep where
  | makeDirectory (path : String)
  | truncate (path : String)
  | write (path text : String)
  /-- Waits until everything has reached the disk. -/
  | flush (path : String)
  | rename (source target : String)
  deriving DecidableEq, Repr

namespace SaveStep

def perform (disk : Disk) : SaveStep → Except DiskFault Disk
  | makeDirectory path => disk.makeDirectories path
  | truncate path => disk.truncate path
  | write path text => disk.append path text
  | flush _ => .ok disk
  | rename source target => disk.rename source target

/-- What did not work when a step fails. -/
def failure : SaveStep → String
  | makeDirectory path => "Failed to create directory " ++ Text.quotedPath path
  | truncate path => "Failed to create temp file " ++ Text.quotedPath path
  | write _ _ => "Failed to write snapshot"
  | flush _ => "Failed to sync snapshot file"
  | rename source target =>
    "Failed to rename " ++ Text.quotedPath source ++ " to " ++ Text.quotedPath target

def performAll (disk : Disk) : List SaveStep → Disk × Except (SaveStep × DiskFault) Unit
  | [] => (disk, .ok ())
  | step :: rest =>
    match step.perform disk with
    | .ok after => performAll after rest
    | .error fault => (disk, .error (step, fault))

end SaveStep

/-- Why a snapshot was not loaded. -/
inductive LoadFault where
  | notOpened (path : String) (fault : DiskFault)
  | notRead (fault : DiskFault)
  | notDecoded (fault : Fault)
  deriving DecidableEq, Repr

namespace LoadFault

def message : LoadFault → String
  | notOpened path _ => "Failed to open snapshot file " ++ Text.quotedPath path
  | notRead _ => "Failed to read snapshot file"
  | notDecoded _ => "Failed to deserialize snapshot"

/-- What did not work, followed by the words of the system where it has any. -/
def chain (fault : LoadFault) : String :=
  match fault with
  | notOpened _ cause => fault.message ++ ": " ++ cause.message
  | notRead cause => fault.message ++ ": " ++ cause.message
  | notDecoded _ => fault.message

end LoadFault

/-- A failed save: the step and the fault. -/
structure SaveFault where
  step : SaveStep
  fault : DiskFault
  deriving DecidableEq, Repr

/-- What did not work, followed by the words of the system. -/
def SaveFault.chain (fault : SaveFault) : String :=
  fault.step.failure ++ ": " ++ fault.fault.message

/-- A file that holds the latest snapshot. -/
structure SnapshotFile where
  path : String
  deriving DecidableEq, Repr

namespace SnapshotFile

def describe (file : SnapshotFile) : String := "json file " ++ file.path

/-- Where a snapshot is written before it takes its place. -/
def temporaryPath (file : SnapshotFile) : String := Path.withExtension file.path "tmp"

def encode (snapshot : Snapshot) : String := snapshot.toJson.compact

def steps (file : SnapshotFile) (text : String) : List SaveStep :=
  (match Path.parent? file.path with
    | some parent => if parent.isEmpty then [] else [.makeDirectory parent]
    | none => []) ++
  [.truncate file.temporaryPath, .write file.temporaryPath text, .flush file.temporaryPath,
    .rename file.temporaryPath file.path]

/-- Saves a snapshot in the place of the one before. -/
def save (file : SnapshotFile) (disk : Disk) (snapshot : Snapshot) :
    Disk × Except SaveFault Unit :=
  match SaveStep.performAll disk (file.steps (encode snapshot)) with
  | (after, .ok ()) => (after, .ok ())
  | (after, .error (step, fault)) => (after, .error ⟨step, fault⟩)

/-- Loads the snapshot saved last, if there is one. -/
def load (file : SnapshotFile) (disk : Disk) : Except LoadFault (Option Snapshot) :=
  match disk.find? file.path with
  | none => .ok none
  | some .directory => .error (.notRead .isADirectory)
  | some (.file content) =>
    match readText Snapshot.reader content with
    | .ok snapshot => .ok (some snapshot)
    | .error fault => .error (.notDecoded fault)

end SnapshotFile

end Headroom
