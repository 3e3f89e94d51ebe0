-- Files and directories, and where paths lead among them. A path is followed
-- part by part, and every part but the last has to be a directory.
import GatedPipeline.Pairs
import GatedPipeline.Text.Path
import GatedPipeline.Text.Quoted
namespace GatedPipeline
open GatedPipeline.Text

/-! ## Faults -/

/-- Why a path does not lead to what is wanted. -/
inductive PathFault where
  | missing
  | alreadyThere
  | notDirectory
  | isDirectory
  | nameTooLong
  /-- The character with the number zero ends a path, so none has it. -/
  | zeroInPath
  deriving DecidableEq, Repr

namespace PathFault

def message (path : String) : PathFault → String
  | .missing => "[Errno 2] No such file or directory: " ++ quoted path
  | .alreadyThere => "[Errno 17] File exists: " ++ quoted path
  | .notDirectory => "[Errno 20] Not a directory: " ++ quoted path
  | .isDirectory => "[Errno 21] Is a directory: " ++ quoted path
  | .nameTooLong => "[Errno 36] File name too long: " ++ quoted path
  | .zeroInPath => "embedded null byte"

end PathFault

/-- The most bytes that a part of a path has. -/
def maxNameBytes : Nat := 255

/-- No path has so many bytes. -/
def pathBytesLimit : Nat := 4096

/-- Refuses a path that cannot be followed at all. -/
def checkPath (path : String) : Except PathFault Unit :=
  if path.toList.contains '\x00' then .error .zeroInPath
  else if pathBytesLimit ≤ path.utf8ByteSize then .error .nameTooLong
  else .ok ()

/-! ## Trees -/

/-- A place: the parts that lead to it from the root. -/
abbrev Location := List String

/-- What stands at a place. -/
inductive FileNode (α : Type) where
  | directory
  | file (content : α)

/-- Files with their contents, and directories. The root is always there. -/
structure FileTree (α : Type) where
  nodes : List (Location × FileNode α) := []

namespace FileTree

variable {α : Type}

def node? (t : FileTree α) (place : Location) : Option (FileNode α) :=
  if place.isEmpty then some .directory else getPair? place t.nodes

def put (t : FileTree α) (place : Location) (n : FileNode α) : FileTree α :=
  { nodes := putPair place n t.nodes }

def isDirectoryAt (t : FileTree α) (place : Location) : Bool :=
  match t.node? place with
  | some .directory => true
  | _ => false

/-- The names of what stands in a directory. -/
def namesIn (t : FileTree α) (place : Location) : List String :=
  t.nodes.filterMap fun (p, _) =>
    match p.getLast? with
    | some name => if p = place ++ [name] then some name else none
    | none => none

/-! ## Following paths -/

/-- Follows parts from a place; two points lead back. -/
def follow (t : FileTree α) : Location → List String → Except PathFault Location
  | place, [] => .ok place
  | place, p :: ps =>
    if !t.isDirectoryAt place then .error .notDirectory
    else if p = ".." then t.follow place.dropLast ps
    else if maxNameBytes < p.utf8ByteSize then .error .nameTooLong
    else if (t.node? (place ++ [p])).isNone then .error .missing
    else t.follow (place ++ [p]) ps

/-- Where a path starts that is followed from a directory. -/
def startOf (dir : Location) (path : String) : Location := if isAbsolute path then [] else dir

/-- What stands where a path leads from a directory. -/
def find (t : FileTree α) (dir : Location) (path : String) : Except PathFault (FileNode α) := do
  checkPath path
  let place ← t.follow (startOf dir path) (pathParts path)
  match t.node? place with
  | some n => return n
  | none => throw .missing

/-- Whether something stands where a path leads. That a name is too long is no answer. -/
def isThere (t : FileTree α) (dir : Location) (path : String) : Except PathFault Bool :=
  match t.find dir path with
  | .ok _ => .ok true
  | .error .nameTooLong => .error .nameTooLong
  | .error _ => .ok false

/-- The content of the file at a path. -/
def read (t : FileTree α) (dir : Location) (path : String) : Except PathFault α := do
  match ← t.find dir path with
  | .file content => return content
  | .directory => throw .isDirectory

/-! ## Making directories -/

/-- The tree with a new directory, whose path has these parts in reverse order. -/
def makeDirectory (t : FileTree α) (start : Location) (name : String) (above : List String) :
    Except PathFault (FileTree α) := do
  let place ← t.follow start above.reverse
  if !t.isDirectoryAt place then throw .notDirectory
  else if name = ".." || (t.node? (place ++ [name])).isSome then throw .alreadyThere
  else if maxNameBytes < name.utf8ByteSize then throw .nameTooLong
  else return t.put (place ++ [name]) .directory

/-- Whether parts in reverse order lead to a directory. -/
def leadsToDirectory (t : FileTree α) (start : Location) (parts : List String) : Bool :=
  match t.follow start parts.reverse with
  | .ok place => t.isDirectoryAt place
  | .error _ => false

/-- The tree with a directory, and with those above it that are not there yet. The parts of its
path stand in reverse order. A fault goes with the parts of the path that has it. -/
def makeDirectories (t : FileTree α) (start : Location) :
    List String → Except (PathFault × List String) (FileTree α)
  | [] => .ok t
  | name :: above =>
    let settle (t : FileTree α) (f : PathFault) : Except (PathFault × List String) (FileTree α) :=
      if t.leadsToDirectory start (name :: above) then .ok t else .error (f, name :: above)
    match t.makeDirectory start name above with
    | .ok t => .ok t
    | .error .missing =>
      match t.makeDirectories start above with
      | .error e => .error e
      | .ok t =>
        match t.makeDirectory start name above with
        | .ok t => .ok t
        | .error f => settle t f
    | .error f => settle t f

/-- The tree with the directory of a path. A fault goes with the path that has it. -/
def withDirectory (t : FileTree α) (dir : Location) (path : String) :
    Except (PathFault × String) (FileTree α) :=
  match checkPath path with
  | .error f => .error (f, normalPath path)
  | .ok () =>
    match t.makeDirectories (startOf dir path) (pathParts path).reverse with
    | .ok t => .ok t
    | .error (f, parts) =>
      .error (f, pathOfParts (isAbsolute path) parts.reverse)

/-- The tree with a directory at each place on the way to this one. -/
def openWay (t : FileTree α) (place : Location) : FileTree α :=
  ((List.range (place.length + 1)).map place.take).foldl
    (fun t p => if (t.node? p).isSome then t else t.put p .directory) t

/-- The tree with a file, and with the directories above it. -/
def withFile (t : FileTree α) (place : Location) (content : α) : FileTree α :=
  (t.openWay place.dropLast).put place (.file content)

end FileTree

end GatedPipeline
