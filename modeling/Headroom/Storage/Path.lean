/-!
# Paths

Paths are texts whose names are separated by slashes.  Two views are kept apart.
The parts of a path belong to its spelling: repeated slashes and single dots mean
nothing there, except a single dot at the very beginning.  The names of a path are
what a system goes through, one directory after the other; there a slash at the end
asks for a directory, just as a single dot does.
-/

namespace Headroom

/-- A place among files and directories: the names on the way to it from the working
directory, or from the root, which stands for itself as an empty name. -/
abbrev Place := List String

def Place.root : Place := [""]

def Place.here : Place := []

/-- The place above.  Nothing is above the root. -/
def Place.above (place : Place) : Place :=
  if place = .root then .root
  else
    match place.getLast? with
    | none => [".."]
    | some name => if name = ".." then place ++ [".."] else place.dropLast

def Place.step (place : Place) (name : String) : Place :=
  if name = "." then place
  else if name = ".." then place.above
  else place ++ [name]

/-- Whether a place is the root, the working directory or above it. -/
def Place.isGiven (place : Place) : Bool :=
  decide (place = .root) || place.all (· == "..")

namespace Path

/-- A part of a path that leads somewhere, with the position just after it. -/
structure Part where
  name : String
  finish : Nat
  deriving DecidableEq, Repr

def isRooted (path : String) : Bool := path.toList.head? = some '/'

/-- Cuts a path at its slashes; `position` is where the next character stands. -/
def cut (current : List Char) (position : Nat) : List Char → List Part
  | [] => [⟨String.ofList current.reverse, position⟩]
  | char :: rest =>
    if char = '/' then ⟨String.ofList current.reverse, position⟩ :: cut [] (position + 1) rest
    else cut (char :: current) (position + 1) rest

/-- The pieces of a path between its slashes. -/
def pieces (path : String) : List Part := cut [] 0 path.toList

/-- The parts of a path that mean something. -/
def parts (path : String) : List Part :=
  let leading :=
    if isRooted path then [] else (pieces path).take 1 |>.filter (·.name == ".")
  leading ++ (pieces path).filter fun part => part.name != "" && part.name != "."

def upTo (path : String) (position : Nat) : String := String.ofList (path.toList.take position)

/-- A path and the paths that lead to the places above it, the nearest first. -/
def ancestors (path : String) : List String :=
  match (parts path).reverse with
  | [] => [path]
  | _ :: above =>
    path :: above.map (fun part => upTo path part.finish) ++ [if isRooted path then "/" else ""]

/-- The path that leads to the place above, if there is one. -/
def parent? (path : String) : Option String := (ancestors path)[1]?

/-- A file name without its extension: what stands before its last dot, unless that is
the first character. -/
def stem (name : String) : String :=
  let before := (name.toList.reverse.dropWhile (· != '.')).drop 1
  if before.isEmpty then name else String.ofList before.reverse

/-- The file name at the end of a path. -/
def fileName? (path : String) : Option Part :=
  (parts path).getLast?.filter fun part => part.name != ".." && part.name != "."

/-- The extension of a path's file name, which is empty where it has none. -/
def extension (path : String) : String :=
  match fileName? path with
  | none => ""
  | some part => String.ofList (part.name.toList.drop ((stem part.name).length + 1))

/-- The path with another extension of its file name.  A path without a file name is left
as it is. -/
def withExtension (path extension : String) : String :=
  match fileName? path with
  | none => path
  | some part =>
    upTo path (part.finish - part.name.length + (stem part.name).length) ++ "." ++ extension

/-- The path with an extension added to its file name, whatever extension it has. -/
def addExtension (path extension : String) : String :=
  match fileName? path with
  | none => path
  | some part => upTo path part.finish ++ "." ++ extension

def start (path : String) : Place := if isRooted path then .root else .here

/-- The names of a path, without a slash at its end. -/
def names (path : String) : List String := (pieces path).map (·.name) |>.filter (· != "")

/-- Whether a slash follows the last name of a path. -/
def endsInSlash (path : String) : Bool :=
  !(names path).isEmpty && path.toList.getLast? == some '/'

/-- The names that a system goes through to reach what a path leads to. -/
def steps (path : String) : List String := names path ++ if endsInSlash path then ["."] else []

/-- Where a path leads if there is nothing but directories on its way. -/
def place (path : String) : Place := (steps path).foldl Place.step (start path)

end Path

end Headroom
