import Headroom.Storage.Path

/-!
# A disk

Files and directories by their places, and the operations that saving a file is
made of.  A path is followed name by name, and every name but the last has to be
that of a directory.  An operation either happens as a whole or fails with the
fault that the system reports and changes nothing.
-/

namespace Headroom

/-- What stands at a place. -/
inductive Entry where
  | file (content : String)
  | directory
  deriving DecidableEq, Repr

/-- Why the system refuses an operation. -/
inductive DiskFault where
  | notFound
  /-- The place is always in use, because it has no name of its own. -/
  | inUse
  | alreadyExists
  | notADirectory
  | isADirectory
  | nameTooLong
  /-- The path holds the character that ends paths. -/
  | unexpectedEnd
  deriving DecidableEq, Repr

/-- The words of the system for a fault. -/
def DiskFault.message : DiskFault → String
  | notFound => "No such file or directory (os error 2)"
  | inUse => "Device or resource busy (os error 16)"
  | alreadyExists => "File exists (os error 17)"
  | notADirectory => "Not a directory (os error 20)"
  | isADirectory => "Is a directory (os error 21)"
  | nameTooLong => "File name too long (os error 36)"
  | unexpectedEnd => "file name contained an unexpected NUL byte"

/-- The files and directories of a system, the latest change first. -/
structure Disk where
  entries : List (Place × Entry)

namespace Disk

/-- A disk with nothing but the root and the working directory. -/
def empty : Disk := ⟨[]⟩

def at? (disk : Disk) (place : Place) : Option Entry :=
  if place.isGiven then some .directory else disk.entries.lookup place

def putAt (disk : Disk) (place : Place) (entry : Entry) : Disk :=
  ⟨(place, entry) :: disk.entries.filter fun other => other.1 != place⟩

def removeAt (disk : Disk) (place : Place) : Disk :=
  ⟨disk.entries.filter fun other => other.1 != place⟩

/-- Puts an entry at the end of a path, whatever is on its way. -/
def put (disk : Disk) (path : String) (entry : Entry) : Disk := disk.putAt (Path.place path) entry

/-- Puts a file at the end of a path, and directories on its way. -/
def provide (disk : Disk) (path content : String) : Disk :=
  (((Path.ancestors path).drop 1).foldl (fun before above => before.put above .directory) disk).put
    path (.file content)

def maximalName : Nat := 255

def maximalPath : Nat := 4095

/-- Takes one step to a name, which only a directory allows. -/
def step (disk : Disk) (place : Place) (name : String) : Except DiskFault Place :=
  match disk.at? place with
  | none => .error .notFound
  | some (.file _) => .error .notADirectory
  | some .directory =>
    if name.utf8ByteSize > maximalName then .error .nameTooLong else .ok (place.step name)

def walk (disk : Disk) : Place → List String → Except DiskFault Place
  | place, [] => .ok place
  | place, name :: rest => do disk.walk (← disk.step place name) rest

/-- Whether a path can be a path at all. -/
def checkPath (path : String) : Except DiskFault Unit :=
  if path.toList.any (· == '\x00') then .error .unexpectedEnd
  else if path.isEmpty then .error .notFound
  else if path.utf8ByteSize > maximalPath then .error .nameTooLong
  else .ok ()

/-- The place that a path leads to, at which nothing needs to stand yet. -/
def locate (disk : Disk) (path : String) : Except DiskFault Place := do
  checkPath path
  disk.walk (Path.start path) (Path.steps path)

def find? (disk : Disk) (path : String) : Option Entry :=
  match disk.locate path with
  | .ok place => disk.at? place
  | .error _ => none

def isDirectory (disk : Disk) (path : String) : Bool := disk.find? path = some .directory

/-- The text of the file that a path leads to. -/
def readFile? (disk : Disk) (path : String) : Option String :=
  match disk.find? path with
  | some (.file content) => some content
  | _ => none

/-- The place that the last name of a path stands for, where it can be given or taken away.
A path whose last name is made of dots alone, or which has no name, gets `unnamed`. -/
def target (disk : Disk) (unnamed : DiskFault) (path : String) : Except DiskFault Place := do
  checkPath path
  let names := Path.names path
  let above ← disk.walk (Path.start path) names.dropLast
  match names.getLast? with
  | none => .error unnamed
  | some name =>
    let place ← disk.step above name
    if name = "." ∨ name = ".." then .error unnamed else .ok place

/-- Makes a directory at the end of a path. -/
def makeDirectory (disk : Disk) (path : String) : Except DiskFault Disk := do
  let place ← disk.target .alreadyExists path
  match disk.at? place with
  | some _ => .error .alreadyExists
  | none => .ok (disk.putAt place .directory)

/-- Makes the directory at the end of the first path, and if the ones above it are missing,
those at the ends of the other paths before. -/
def makeEach (disk : Disk) : List String → Except DiskFault Disk
  | [] => .error .notFound
  | path :: above =>
    let settle := fun (before : Disk) (fault : DiskFault) =>
      if before.isDirectory path then Except.ok before else .error fault
    if path.isEmpty then .ok disk
    else
      match disk.makeDirectory path with
      | .ok after => .ok after
      | .error .notFound => do
        let before ← disk.makeEach above
        match before.makeDirectory path with
        | .ok after => .ok after
        | .error fault => settle before fault
      | .error fault => settle disk fault

/-- Makes a directory and those above it, unless they are there. -/
def makeDirectories (disk : Disk) (path : String) : Except DiskFault Disk :=
  disk.makeEach (Path.ancestors path)

/-- Makes the file at the end of a path empty, creating it if necessary. -/
def truncate (disk : Disk) (path : String) : Except DiskFault Disk := do
  let place ← disk.target .isADirectory path
  if Path.endsInSlash path then .error .isADirectory
  else
    match disk.at? place with
    | some .directory => .error .isADirectory
    | _ => .ok (disk.putAt place (.file ""))

/-- Appends to the file at the end of a path. -/
def append (disk : Disk) (path : String) (text : String) : Except DiskFault Disk := do
  let place ← disk.locate path
  match disk.at? place with
  | none => .error .notFound
  | some .directory => .error .isADirectory
  | some (.file content) => .ok (disk.putAt place (.file (content ++ text)))

/-- Gives the file at the end of one path the place of another one, in one step. -/
def rename (disk : Disk) (source target : String) : Except DiskFault Disk := do
  let before ← disk.target .inUse source
  let after ← disk.target .inUse target
  match disk.at? before with
  | none => .error .notFound
  | some .directory => .error .isADirectory
  | some (.file content) =>
    if Path.endsInSlash source || Path.endsInSlash target then .error .notADirectory
    else if disk.at? after = some .directory then .error .isADirectory
    else .ok ((disk.removeAt before).putAt after (.file content))

end Disk

end Headroom
