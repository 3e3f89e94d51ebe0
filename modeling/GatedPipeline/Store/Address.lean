-- Addresses of stores. An address names a kind of store and where it is kept:
-- in memory, or in a file below the working directory or the root.
import GatedPipeline.Decimal.Reading
import GatedPipeline.FileTree
namespace GatedPipeline
open GatedPipeline.Text

/-! ## Faults -/

/-- Why no store can be opened at an address. -/
inductive OpenFault where
  /-- The address is not written as one. -/
  | unreadable
  | unknownKind (kind : String)
  /-- The address names a host. -/
  | notLocal (address : String)
  /-- The limit of time in the address is no number. -/
  | badLimit (text : String)
  /-- The path begins at the home of somebody who is not known. -/
  | noHome
  /-- The directory of the file cannot be made. -/
  | directory (path : String) (cause : PathFault)
  /-- The file cannot be opened. -/
  | closed
  /-- The file holds something else. -/
  | notStore
  deriving DecidableEq, Repr

def OpenFault.message : OpenFault → String
  | .unreadable => "Could not parse SQLAlchemy URL from given URL string"
  | .unknownKind kind =>
    "Can't load plugin: sqlalchemy.dialects:" ++
      String.ofList (kind.toList.map fun c => if c = '+' then '.' else c)
  | .notLocal address =>
    s!"Invalid SQLite URL: {address}\nValid SQLite URL forms are " ++
      "sqlite:///:memory: or sqlite:////absolute/path/to/file.db"
  | .badLimit text => "could not convert string to float: " ++ quoted text
  | .noHome => "Could not determine home directory."
  | .directory path cause => cause.message path
  | .closed => "(sqlite3.OperationalError) unable to open database file"
  | .notStore => "(sqlite3.DatabaseError) file is not a database"

/-! ## Parts of an address -/

/-- An address: `kind://host/path?options`. -/
structure StoreAddress where
  kind : String
  host : String
  path : String
  options : String
  deriving DecidableEq, Repr

namespace StoreAddress

def isKindChar (c : Char) : Bool := c.isAlphanum || c = '_' || c = '+'

/-- The parts of an address; none when it is not written as one. -/
def ofText? (s : String) : Option StoreAddress :=
  let cs := s.toList
  match cs.takeWhile isKindChar, cs.dropWhile isKindChar with
  | k :: ks, ':' :: '/' :: '/' :: r =>
    let inHost (c : Char) := c ≠ '/' && c ≠ '?'
    let host := r.takeWhile inHost
    let (path, options) := match r.dropWhile inHost with
      | '/' :: r => (r.takeWhile (· ≠ '?'), (r.dropWhile (· ≠ '?')).drop 1)
      | r => ([], r.drop 1)
    some {
      kind := String.ofList (k :: ks), host := String.ofList host
      path := String.ofList path, options := String.ofList options }
  | _, _ => none

/-- The kinds of stores that there are. -/
def kinds : List String := ["sqlite", "sqlite+pysqlite"]

/-- The value of an option; the last one counts. -/
def option? (a : StoreAddress) (name : String) : Option String :=
  ((splitText '&' a.options).filterMap fun o =>
    match cut? '=' o.toList with
    | some (k, v :: vs) => if String.ofList k = name then some (String.ofList (v :: vs)) else none
    | _ => none).getLast?

/-- How long a store may keep one waiting. -/
def limitName : String := "timeout"

/-- The path of a store in memory. -/
def memoryName : String := ":memory:"

/-- The file of a store; none when it is in memory. -/
def file? (a : StoreAddress) : Option String :=
  if a.path = "" || a.path = memoryName then none else some a.path

/-- Refuses an address at which no store can be. -/
def check (s : String) (a : StoreAddress) : Except OpenFault Unit :=
  if !kinds.contains a.kind then .error (.unknownKind a.kind)
  else if a.host ≠ "" then .error (.notLocal s)
  else match a.option? limitName with
    | some text => if (Decimal.readNumber? text).isSome then .ok () else .error (.badLimit text)
    | none => .ok ()

/-- The file that an address names; none when the store is in memory. -/
def fileAt (s : String) : Except OpenFault (Option String) :=
  match ofText? s with
  | none => .error .unreadable
  | some a => (check s a).map fun _ => a.file?

/-! ## The directory of a store -/

/-- How the address begins for whose file a directory is made. -/
def fileScheme : String := "sqlite:///"

/-- The directory that is made for the file of a store, if one is. It takes in what the address
says after the path. One at the home of the user is there already. -/
def directory? (s : String) : Except OpenFault (Option String) :=
  let rest := String.ofList (s.toList.drop fileScheme.length)
  if !fileScheme.toList.isPrefixOf s.toList || memoryName.toList.isPrefixOf rest.toList then
    .ok none
  else
    let parts := pathParts rest
    let above := some (pathOfParts (isAbsolute rest) parts.dropLast)
    match isAbsolute rest, parts.head?.map String.toList with
    | false, some ('~' :: user) => if user.isEmpty then .ok none else .error .noHome
    | _, _ => .ok above

end StoreAddress

end GatedPipeline
