-- The commands of the command line, and how they are read from arguments.
import GatedPipeline.Cli.Options
import GatedPipeline.Decimal.Reading
import GatedPipeline.Gate.Basic
import GatedPipeline.Trigger
namespace GatedPipeline.Cli
open GatedPipeline.Decimal

/-! ## Commands -/

/-- Where the versions of a release come from. -/
structure VersionChoice where
  candidate : Option String := none
  latest : Option String := none
  file : Option String := none

/-- What a new run is made of. -/
structure RunChoice where
  workflow : Option String := none
  event : EventKind := .push
  ref : Option String := none
  fork : Bool := false
  actor : String := ""
  /-- Values of the trigger, each as `key=value`. -/
  assignments : List String := []
  gitDiff : Bool := false
  compareRef : String := "origin/main"
  workers : Option Int := none
  failFast : Option Bool := none
  versions : VersionChoice := {}
  gateTimeout : Option Binary64 := none

inductive Command where
  | run (choice : RunChoice) (db : Option String)
  | plan (workflow : Option String)
  | resume (runId : String) (workflow : Option String) (versions : VersionChoice)
      (db : Option String)
  | listGates (db : Option String)
  | decideGate (id : String) (status : GateStatus) (actor comment : String) (db : Option String)
  | listRuns (limit : Int) (db : Option String)

/-- The address of the store that a command names, if it names one. -/
def Command.db? : Command → Option String
  | .run _ db | .resume _ _ _ db | .listGates db | .decideGate _ _ _ _ db | .listRuns _ db => db
  | .plan _ => none

/-- The paths that a command names. A workflow may be named without its suffix. -/
def Command.paths : Command → List String
  | .run c _ => ofWorkflow c.workflow ++ c.versions.file.toList
  | .plan workflow => ofWorkflow workflow
  | .resume _ workflow versions _ => ofWorkflow workflow ++ versions.file.toList
  | .listGates _ | .decideGate .. | .listRuns .. => []
where
  ofWorkflow (workflow : Option String) : List String :=
    workflow.toList ++ (workflow.map (· ++ ".py")).toList

/-- A command, and whether more is to be shown. -/
structure Invocation where
  debug : Bool
  command : Command

/-! ## Options -/

def textOption (name : String) : OptionSpec := ⟨"--" ++ name, name, .text⟩

/-- The two spellings of a choice. -/
def choiceOption (name : String) : List OptionSpec :=
  [⟨"--" ++ name, name, .flag true⟩, ⟨"--no-" ++ name, name, .flag false⟩]

def versionOptions : List OptionSpec :=
  ["candidate-version", "latest-version", "version-file"].map textOption

def versionChoice (a : Arguments) : VersionChoice :=
  { candidate := a.text? "candidate-version", latest := a.text? "latest-version"
    file := a.text? "version-file" }

/-- The options of a run. Where the approval service listens has to be a number; the run itself
does not need it. -/
def runOptions : List OptionSpec :=
  ["workflow", "event", "ref", "actor", "var", "compare-ref", "workers", "db", "gate-timeout",
      "serve-port"].map textOption ++
    ["fork", "git-diff", "fail-fast"].flatMap choiceOption ++ versionOptions

/-! ## Reading -/

def whole? (s : String) : Option Int := (readWhole s).toOption

/-- The one argument that is no option. -/
def single? (a : Arguments) : Option String :=
  match a.others with
  | [s] => some s
  | _ => none

/-- A command without arguments other than options. -/
def alone (a : Arguments) (c : Command) : Option Command :=
  if a.others.isEmpty then some c else none

def readRun (args : List String) : Option Command := do
  let a ← readArguments runOptions args
  let plain : RunChoice := {}
  let event ← a.read? "event" EventKind.ofName?
  let workers ← a.read? "workers" whole?
  let gateTimeout ← a.read? "gate-timeout" readNumber?
  let _listensAt ← a.read? "serve-port" whole?
  alone a (.run {
    workflow := a.text? "workflow"
    event := event.getD plain.event
    ref := a.text? "ref"
    fork := (a.flag? "fork").getD plain.fork
    actor := (a.text? "actor").getD plain.actor
    assignments := a.texts "var"
    gitDiff := (a.flag? "git-diff").getD plain.gitDiff
    compareRef := (a.text? "compare-ref").getD plain.compareRef
    failFast := a.flag? "fail-fast"
    versions := versionChoice a
    workers, gateTimeout } (a.text? "db"))

def readPlan (args : List String) : Option Command := do
  let a ← readArguments [textOption "workflow"] args
  alone a (.plan (a.text? "workflow"))

def readResume (args : List String) : Option Command := do
  let a ← readArguments (["workflow", "db"].map textOption ++ versionOptions) args
  return .resume (← single? a) (a.text? "workflow") (versionChoice a) (a.text? "db")

def readListGates (args : List String) : Option Command := do
  let a ← readArguments [textOption "db"] args
  alone a (.listGates (a.text? "db"))

/-- A decision has to say who made it. -/
def readDecideGate (status : GateStatus) (args : List String) : Option Command := do
  let a ← readArguments (["actor", "comment", "db"].map textOption) args
  return .decideGate (← single? a) status (← a.text? "actor") ((a.text? "comment").getD "")
    (a.text? "db")

/-- How many runs are listed unless told otherwise. -/
def defaultLimit : Int := 20

def readListRuns (args : List String) : Option Command := do
  let a ← readArguments (["limit", "db"].map textOption) args
  alone a (.listRuns ((← a.read? "limit" whole?).getD defaultLimit) (a.text? "db"))

/-- The command about gates with a name. -/
def readGates (name : String) (args : List String) : Option Command :=
  match name with
  | "list" => readListGates args
  | "approve" => readDecideGate .approved args
  | "reject" => readDecideGate .rejected args
  | _ => none

/-- The command with a name. -/
def readCommand (name : String) (args : List String) : Option Command :=
  match name with
  | "run" => readRun args
  | "plan" => readPlan args
  | "resume" => readResume args
  | "gates" => do
    let (_, name, args) ← readLeading [] args
    readGates name args
  | "runs" => readListRuns args
  | _ => none

/-- Reads a command line; none when it is not right. -/
def readInvocation (args : List String) : Option Invocation := do
  let (set, name, args) ← readLeading ["--debug"] args
  return { debug := !set.isEmpty, command := ← readCommand name args }

end GatedPipeline.Cli
