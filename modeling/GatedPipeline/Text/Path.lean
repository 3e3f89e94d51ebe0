-- Paths of files: their parts, the directory that a path leads to, and the
-- suffix of a file name.
import GatedPipeline.Text.Find
namespace GatedPipeline.Text

/-- The parts of a path. Empty ones and single points do not count. -/
def pathParts (path : String) : List String :=
  (splitText '/' path).filter fun p => p ≠ "" && p ≠ "."

def isAbsolute (path : String) : Bool := ['/'].isPrefixOf path.toList

/-- The path with these parts. -/
def pathOfParts (absolute : Bool) (parts : List String) : String :=
  let body := "/".intercalate parts
  if absolute then "/" ++ body else if body = "" then "." else body

/-- The path without the parts that do not count. Two slashes at its start, and no more than
two, stay as they are. -/
def normalPath (path : String) : String :=
  let plain := pathOfParts (isAbsolute path) (pathParts path)
  match path.toList with
  | '/' :: '/' :: '/' :: _ => plain
  | '/' :: '/' :: _ => "/" ++ plain
  | _ => plain

/-- Follows parts from a directory; two points lead back. -/
def followParts : List String → List String → List String
  | dir, [] => dir
  | dir, p :: ps => followParts (if p = ".." then dir.dropLast else dir ++ [p]) ps

/-- Where a path leads from an absolute directory. -/
def resolvePath (dir path : String) : String :=
  let start := if isAbsolute path then [] else pathParts dir
  "/" ++ "/".intercalate (followParts (followParts [] start) (pathParts path))

/-- The last part of a path. -/
def fileName (path : String) : String := (pathParts path).getLast?.getD ""

/-- A file name cut at its last point. A point at either end cuts nothing. -/
def cutSuffix (name : String) : String × String :=
  let cs := name.toList
  let last := (cs.reverse.takeWhile (· ≠ '.')).reverse
  let before := cs.take (cs.length - last.length - 1)
  if last.isEmpty || before.isEmpty || last.length = cs.length then (name, "")
  else (String.ofList before, "." ++ String.ofList last)

/-- The file name of a path without its suffix. -/
def fileStem (path : String) : String := (cutSuffix (fileName path)).1

/-- The suffix of a path, with its point. -/
def fileSuffix (path : String) : String := (cutSuffix (fileName path)).2

end GatedPipeline.Text
