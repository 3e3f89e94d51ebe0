-- Where commands are carried out: the files around the working directory, with
-- the stores among them, and what git says.
import GatedPipeline.Cli.Command
import GatedPipeline.Console
import GatedPipeline.Git
import GatedPipeline.Host
import GatedPipeline.Release.ProjectFile
import GatedPipeline.Settings
import GatedPipeline.Store.Address
import GatedPipeline.Workflow.File
namespace GatedPipeline.Cli
open GatedPipeline.Text

/-- What a file holds. -/
inductive Content where
  | text (s : String)
  | store (s : RunStore)

structure Workspace where
  /-- Where the working directory is. -/
  directory : Location
  files : FileTree Content := {}
  /-- The workflow that a file defines, or why it cannot be loaded. -/
  load : String → Except String Workflow
  git : GitAnswers := {}
  settings : Settings := {}
  /-- The number of workers of a run when nothing says otherwise. -/
  workers : Int := 4
  /-- What the bodies of instances do. -/
  bodies : List (String × BodyScript) := []
  /-- How many runs have got an identity. -/
  runCount : Nat := 0

/-- What a command comes to. -/
structure Reply where
  exit : Nat := 0
  printed : Printed := {}
  /-- The workflow files that were loaded. -/
  loaded : List String := []

/-- The reply to a command that has failed. -/
def Reply.failed (printed : Printed) (exit : Nat := 1) : Reply := { exit, printed }

/-- The reply with what was printed before it. -/
def Reply.after (r : Reply) (before : Printed) : Reply := { r with printed := before ++ r.printed }

/-- The reply to a command that broke off. It says nothing. -/
def Reply.brokenOff : Reply := { exit := 1 }

/-- The reply to a command line that is not right. It says nothing. -/
def Reply.misused : Reply := { exit := 2 }

namespace Workspace

/-! ## Files -/

/-- The working directory with these files in it. -/
def filesIn (directory : Location) (files : List (String × String)) : FileTree Content :=
  files.foldl (fun t (path, text) => t.withFile (directory ++ pathParts path) (.text text))
    (FileTree.openWay {} directory)

/-- Whether something is at a path. -/
def isThere (ws : Workspace) (path : String) : Except PathFault Bool :=
  ws.files.isThere ws.directory path

/-- The workflow file that is taken when several might be meant. -/
def defaultWorkflow : String := "relayci_workflow.py"

/-- The names in the directory that look like those of workflow files. -/
def workflowFiles (ws : Workspace) : List String :=
  sortTexts (ws.files.namesIn ws.directory |>.filter fun f =>
    "_workflow.py".toList.isSuffixOf f.toList)

/-- The path that an argument means, if something is there: as it is given, or else with the
suffix of workflow files. -/
def pathOf? (ws : Workspace) (given : String) : Except PathFault (Option String) := do
  let path := normalPath given
  if ← ws.isThere path then return some path
  let longer := path ++ workflowSuffix
  if fileSuffix path ≠ workflowSuffix && (← ws.isThere longer) then return some (normalPath longer)
  else return none

/-- The reply when there is no workflow file that could be meant, or more than one. -/
def undecided (ws : Workspace) : Reply :=
  match ws.workflowFiles with
  | [] => .failed (Console.error "No workflow file found" "Could not find any workflow files."
      ["Looked for:", s!"  {defaultWorkflow}", "  *_workflow.py"]
      (some (s!"Create a workflow file:\n  {defaultWorkflow}\n\n" ++
        "Or specify a workflow explicitly:\n  relayci run --workflow my_workflow.py")))
  | paths => .failed (Console.error "Multiple workflow files found"
      "Found multiple workflow files. Please specify which one to use:"
      ["\n".intercalate (paths.map ("  " ++ ·))]
      (some (s!"Specify a workflow explicitly:\n  relayci run --workflow {defaultWorkflow}")))

/-- The workflow file that is meant, or the reply when there is none. -/
def discover (ws : Workspace) (given : Option String) : Except Reply String :=
  match given.filter (· ≠ ""), ws.workflowFiles with
  | some given, _ =>
    match ws.pathOf? given with
    | .ok (some path) => .ok path
    | .ok none => .error (.failed (Console.error "Workflow file not found"
        s!"Could not find workflow file: {given}" []
        (some ("Create a workflow file or specify a different path:\n" ++
          "  relayci run --workflow my_workflow.py"))))
    | .error _ => .error .brokenOff
  | none, [path] => .ok path
  | none, _ => .error ws.undecided

/-- Loads the workflow file that is meant, and goes on with its path and its workflow. -/
def withWorkflow (ws : Workspace) (given : Option String)
    (next : String → Workflow → Reply × Workspace) : Reply × Workspace :=
  match ws.discover given with
  | .error reply => (reply, ws)
  | .ok path =>
    match ws.load path with
    | .error reason =>
      ({ Reply.failed (Console.error "Failed to load workflow"
          s!"Could not load workflow from {path}" [reason]) with loaded := [path] }, ws)
    | .ok w =>
      let (reply, ws) := next path w
      ({ reply with loaded := path :: reply.loaded }, ws)

/-! ## Stores -/

/-- The address of the store that is meant. -/
def address (ws : Workspace) (db : Option String) : String :=
  (db.filter (· ≠ "")).getD ws.settings.databaseUrl

/-- A store that is open, and the place of its file. A store in memory has none, and is lost when
it is closed. -/
structure OpenStore where
  store : RunStore
  place : Option Location

/-- The place of a file. Two points lead back whatever stands before them. -/
def placeOf (ws : Workspace) (path : String) : Location :=
  followParts (FileTree.startOf ws.directory path) (pathParts path)

/-- Opens the store in a file. A file that is not there, or is empty, becomes an empty store. -/
def openFile (ws : Workspace) (path : String) : Except OpenFault OpenStore :=
  let place := ws.placeOf path
  let tooLong := place.any fun p => maxNameBytes < p.utf8ByteSize
  if path.toList.contains '\x00' then .error (.directory path .zeroInPath)
  else if !ws.files.isDirectoryAt place.dropLast || tooLong then .error .closed
  else match ws.files.node? place with
    | some .directory => .error .closed
    | some (.file (.text text)) =>
      if text = "" then .ok ⟨{}, some place⟩ else .error .notStore
    | some (.file (.store s)) => .ok ⟨s, some place⟩
    | none => .ok ⟨{}, some place⟩

/-- The workspace with the directory for the store at an address. -/
def withStoreDirectory (ws : Workspace) (url : String) : Except OpenFault Workspace := do
  match ← StoreAddress.directory? url with
  | none => return ws
  | some path =>
    match ws.files.withDirectory ws.directory path with
    | .ok files => return { ws with files }
    | .error (cause, path) => throw (.directory path cause)

/-- Keeps an open store in its file. -/
def keepStore (ws : Workspace) (o : OpenStore) (s : RunStore) : Workspace :=
  match o.place with
  | some place => { ws with files := ws.files.put place (.file (.store s)) }
  | none => ws

/-- Opens the store at an address. Its file is there from then on, and so is its directory, even
when it cannot be opened. -/
def openStore (ws : Workspace) (url : String) : Except OpenFault OpenStore × Workspace :=
  match ws.withStoreDirectory url with
  | .error fault => (.error fault, ws)
  | .ok ws =>
    match StoreAddress.fileAt url with
    | .error fault => (.error fault, ws)
    | .ok none => (.ok ⟨{}, none⟩, ws)
    | .ok (some path) =>
      match ws.openFile path with
      | .error fault => (.error fault, ws)
      | .ok o => (.ok o, ws.keepStore o o.store)

/-- Opens the store that is meant, and goes on with it. A store that cannot be opened breaks the
command off. -/
def withStore (ws : Workspace) (db : Option String)
    (next : OpenStore → Workspace → Reply × Workspace) : Reply × Workspace :=
  match ws.openStore (ws.address db) with
  | (.error _, ws) => (.brokenOff, ws)
  | (.ok o, ws) => next o ws

/-! ## Git -/

/-- The text without the slashes at its end. -/
def dropSlashes (s : String) : String :=
  String.ofList (s.toList.reverse.dropWhile (· = '/')).reverse

/-- The name of the repository: the last part of its address, or else the name of the working
directory. -/
def repository (ws : Workspace) : String :=
  match ws.git.remoteUrl.result with
  | .ok url => replace ".git" "" (((splitText '/' (dropSlashes url)).getLast?).getD "")
  | .error _ => ws.directory.getLast?.getD ""

/-- The text of a file. That of a store says what it is. -/
def textOf (ws : Workspace) (path : String) : Except PathFault String :=
  (ws.files.read ws.directory path).map fun content =>
    match content with
    | .text s => s
    | .store _ => "SQLite format 3"

/-- The version source of a choice. A candidate comes before a file, and that before the values
of the trigger. -/
def versionSource (ws : Workspace) (t : Trigger) (v : VersionChoice) : Option VersionSource :=
  match v.candidate.filter (· ≠ ""), v.file.filter (· ≠ "") with
  | some candidate, _ => some (.fixed candidate v.latest)
  | none, some file =>
    let path := normalPath file
    some (.ofProject path (ws.textOf path) v.latest)
  | none, none => if (t.values.lookup "version").isSome then some (.ofTrigger t) else none

end Workspace

end GatedPipeline.Cli
