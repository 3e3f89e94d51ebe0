-- The command line program. A workflow file holds the JSON description of a
-- workflow, and a store is kept as a JSON document in the file that its
-- address names. Bodies are rehearsed: no command is started, and each body
-- writes the outputs that its stage declares.
import GatedPipeline.Cli.Execute
import GatedPipeline.Description.Store
import GatedPipeline.Description.Workflow
import GatedPipeline.Json.Reader
import Std.Time.DateTime.Timestamp
namespace GatedPipeline.Cli
open GatedPipeline.Text

/-- The workflow that the text of a workflow file describes. -/
def workflowOfFile (ws : Workspace) (path : String) : Except String Workflow :=
  match ws.textOf path with
  | .ok text =>
    match Json.parse? text with
    | some j => .ok (Workflow.ofJson (fileStem path) j)
    | none => .error "not a JSON document"
  | .error fault => .error (fault.message path)

/-- The variables that settings are read from. -/
def settingNames : List String :=
  ["RELAYCI_DATABASE_URL", "RELAYCI_MAX_PARALLEL", "RELAYCI_GLOBAL_CONCURRENCY",
    "RELAYCI_GATE_TIMEOUT", "RELAYCI_LOG_LEVEL"]

def readEnvironment : IO (List (String × String)) :=
  settingNames.filterMapM fun name => do return (← IO.getEnv name).map (name, ·)

/-- The text of a file; empty when it cannot be read. -/
def readText (path : String) : IO String := do
  try IO.FS.readFile path catch _ => return ""

/-- What stands at a place, if anything does. -/
def readNode (place : Location) : IO (Option (FileNode Content)) := do
  let path := (← IO.currentDir) / pathOfParts true place
  if ← path.isDir then return some .directory
  else if ← path.pathExists then
    return some (.file (.text (← readText (pathOfParts true place))))
  else return none

/-- The tree with what stands at some places. -/
def withPlaces (t : FileTree Content) (places : List Location) : IO (FileTree Content) :=
  places.foldlM (fun t p => do return ((← readNode p).map (t.put p)).getD t) t

/-- The tree with what stands on the way to a place. -/
def withWay (t : FileTree Content) (place : Location) : IO (FileTree Content) :=
  withPlaces t ((List.range (place.length + 1)).map place.take)

/-- What stands around a directory: all that is in it, and what is on the way to some paths. -/
def readFiles (directory : Location) (paths : List String) : IO (FileTree Content) := do
  let entries ← (← IO.currentDir).readDir
  let inside := entries.toList.map fun e => directory ++ [e.fileName]
  let t ← withPlaces (← withWay {} directory) inside
  paths.foldlM (fun t path =>
    withWay t (followParts (FileTree.startOf directory path) (pathParts path))) t

/-- The workspace in which the file at a place counts as a store if it holds one. -/
def withStoreFile (ws : Workspace) (place : Location) : Workspace :=
  match ws.files.node? place with
  | some (.file (.text text)) =>
    match (Json.parse? text).bind RunStore.ofJson? with
    | some s => ws.keepStore ⟨s, some place⟩ s
    | none => ws
  | _ => ws

/-- The store in the file at a place, if it is one. -/
def storeIn? (ws : Workspace) (place : Location) : Option RunStore :=
  match ws.files.node? place with
  | some (.file (.store s)) => some s
  | _ => none

/-- Writes a store to its file, in a directory that is made for it if need be. -/
def writeStore (place : Location) (s : RunStore) : IO Unit := do
  IO.FS.createDirAll (pathOfParts true place.dropLast)
  IO.FS.writeFile (pathOfParts true place) s.toJson.render

/-- Carries out a command line in the working directory. -/
def runProgram (args : List String) : IO UInt32 := do
  let environment ← readEnvironment
  match Settings.ofEnvironment (environment.lookup ·) with
  | .error fault =>
    IO.eprintln s!"Error: {fault.message}"
    return 1
  | .ok settings =>
    let directory := pathParts (← IO.currentDir).toString
    let command? := (readInvocation args).map (·.command)
    let url := (command?.bind (·.db?)).getD settings.databaseUrl
    let file := ((StoreAddress.fileAt url).toOption.bind id).toList
    let files ← readFiles directory ((command?.map (·.paths)).getD [] ++ file)
    let plain : Workspace := {
      directory, files, settings, load := fun _ => .error "", git := { answers := none } }
    let plain := { plain with load := workflowOfFile plain }
    let place? := file.head?.map plain.placeOf
    let ws := (place?.map (withStoreFile plain)).getD plain
    let old := (place?.bind (storeIn? ws)).getD {}
    let seconds := (← Std.Time.Timestamp.now).toSecondsSinceUnixEpoch.val
    let (reply, ws) := { ws with runCount := old.runs.length : Workspace }.invoke args seconds
    IO.print reply.printed.out
    IO.eprint reply.printed.err
    match place?, place?.bind (storeIn? ws) with
    | some place, some s => writeStore place s
    | _, _ => pure ()
    return reply.exit.toUInt32

end GatedPipeline.Cli

def main (args : List String) : IO UInt32 := GatedPipeline.Cli.runProgram args
