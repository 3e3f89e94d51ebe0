-- Stage bodies made of shell commands. The commands of a stage run one after
-- the other, each of them watched: it is stopped when it takes too long, or
-- when the stage is cancelled. A stage breaks off without a report when a command
-- cannot be started at all, or when what it has left behind is no text. What the
-- commands inherit from the host, and what they leave running, is not looked at.
import GatedPipeline.Body
import GatedPipeline.FileTree
import GatedPipeline.Time
import GatedPipeline.Text.Blank
import GatedPipeline.Text.Lines
import GatedPipeline.Text.Upper
namespace GatedPipeline
open GatedPipeline.Text

namespace Shell

/-! ## Faults -/

/-- Why a stage breaks off without a report. -/
inductive Fault where
  /-- It cannot be told whether the directory of a step is there, or it is none. -/
  | directory (path : String) (cause : PathFault)
  /-- A variable of the environment has an equals sign in its name. -/
  | variableName
  /-- The character with the number zero stands in a command or in its environment. -/
  | zeroInText
  /-- The system does not start a command, for reasons of its own. -/
  | refused (error : String)
  /-- What a command has printed is no text, or what stands in the file for outputs. -/
  | noText
  /-- The file for outputs cannot be opened any more. -/
  | lostFile (error : String)
  deriving DecidableEq, Repr

/-- What a fault says. What is wrong with bytes that are no text is for the codec to say. -/
def Fault.message : Fault → Option String
  | .directory path cause => some (cause.message path)
  | .variableName => some "illegal environment variable name"
  | .zeroInText => some (PathFault.zeroInPath.message "")
  | .refused error => some error
  | .noText => none
  | .lostFile error => some error

/-! ## Commands -/

/-- The file for outputs. -/
inductive OutputFile where
  | holds (content : ByteArray)
  /-- It was removed, or something else stands in its place, and the system says so. -/
  | lost (error : String)

namespace OutputFile

/-- The file with more at its end. -/
def append (more : ByteArray) : OutputFile → OutputFile
  | .holds content => .holds (content ++ more)
  | .lost error => .lost error

/-- What stands in the file. -/
def text : OutputFile → Except Fault String
  | .holds content =>
    match String.fromUTF8? content with
    | some text => .ok text
    | none => .error .noText
  | .lost error => .error (.lostFile error)

end OutputFile

/-- What a command does once it is to be started. -/
structure CommandScript where
  /-- The system does not start it, and says so. -/
  refusal : Option String := none
  /-- How many looks at it find that it still runs. -/
  looks : Nat := 0
  /-- The stage is cancelled at the look after which so many are left. -/
  cancelAt : Option Nat := none
  /-- The stage is cancelled as the command ends by itself. -/
  cancelAfter : Bool := false
  /-- Whether it goes on when it is asked to end. -/
  stubborn : Bool := false
  stdout : ByteArray := .empty
  stderr : ByteArray := .empty
  code : Int := 0
  /-- What it makes of the file for outputs. -/
  file : OutputFile → OutputFile := id
  /-- What it makes of all other files and directories. -/
  tree : FileTree Unit → FileTree Unit := id
  deriving Inhabited

/-- How a command under watch has come to its end. -/
inductive CommandEnd where
  | exited | timedOut | stopped
  deriving DecidableEq, Repr

/-- How long a command may take, and how that is written. -/
structure StepLimit where
  span : Time
  text : String

/-- What is printed as text, with a line feed for each break between lines. -/
def printedText? (bytes : ByteArray) : Option String :=
  (String.fromUTF8? bytes).map fun text => String.ofList (unifyBreaks text.toList)

/-- Under what circumstances commands run. -/
structure Setting where
  /-- The directory from which those of the commands are reached. -/
  root : String := "/"
  /-- The files and directories that there are. Commands may change them. -/
  files : FileTree Unit := {}
  limit : Option StepLimit := none
  /-- How much time passes from one look at a command to the next. -/
  pollInterval : Time := 1
  /-- How what a command prints is read as text; nothing for bytes that are none. -/
  reads : ByteArray → Option String := printedText?

/-- The circumstances after a command. -/
def Setting.after (setting : Setting) (c : CommandScript) : Setting :=
  { setting with files := c.tree setting.files }

/-- Watches a command that has so many looks left and has been running for a while. Says how it
ends, and whether the stage is cancelled by then. -/
def watch (setting : Setting) (c : CommandScript) : Nat → Time → Bool → CommandEnd × Bool
  | 0, _, cancelled => (.exited, cancelled || c.cancelAfter)
  | n + 1, elapsed, cancelled =>
    let elapsed := elapsed + setting.pollInterval
    let cancelled := cancelled || c.cancelAt == some n
    if setting.limit.any fun l => decide (l.span < elapsed) then (.timedOut, cancelled)
    else if cancelled then (.stopped, true)
    else watch setting c n elapsed cancelled

/-- What a command is sent that does not end by itself. -/
def signals (c : CommandScript) : CommandEnd → List String
  | .exited => []
  | _ => if c.stubborn then ["terminate", "kill"] else ["terminate"]

/-! ## The environment of commands -/

/-- A name as a part of the name of a variable. -/
def variablePart (name : String) : String :=
  upper (name.map fun c => if c.isAlphanum then c else '_')

/-- The variable that has the path of the file for outputs. -/
def outputVariable : String := "RELAYCI_OUTPUT"

/-- What the commands of an instance find in their environment, the path of the file for outputs
apart. What tells of the instance comes before what its stage declares. -/
def environment (i : Instance) (inputs : List (String × Value)) : List (String × String) :=
  let own := i.template.env ++ [("RELAYCI_STAGE", i.name), ("RELAYCI_STAGE_ID", i.id)] ++
    i.coordinates.map (fun (d, v) => ("RELAYCI_MATRIX_" ++ variablePart d, v)) ++
    inputs.map (fun (k, v) => ("RELAYCI_INPUT_" ++ variablePart k, v.shown))
  dropPair outputVariable (ofPairs own)

/-! ## Outputs -/

def isOutputNameChar (c : Char) : Bool := c.isAlphanum || c == '_' || c == '-'

/-- The output that a printed line sets: `::set-output name=key::value`. -/
def printedOutput? (line : String) : Option (String × Value) :=
  let mark := "::set-output name=".toList
  let cs := (trim line).toList
  if mark.isPrefixOf cs then
    let rest := cs.drop mark.length
    match rest.takeWhile isOutputNameChar, rest.dropWhile isOutputNameChar with
    | k :: ks, ':' :: ':' :: value => some (String.ofList (k :: ks), .text (String.ofList value))
    | _, _ => none
  else none

/-- The outputs that printed text sets. -/
def printedOutputs (text : String) : List (String × Value) :=
  (textLines text).filterMap printedOutput?

/-- The output that a line of the file sets: `key=value`. Blanks around the key do not count. -/
def fileOutput? (line : String) : Option (String × Value) :=
  match cut? '=' line.toList with
  | some (k :: ks, value) => some (trim (String.ofList (k :: ks)), .text (String.ofList value))
  | _ => none

/-- The outputs that the text of the file sets. -/
def fileOutputs (text : String) : List (String × Value) :=
  (splitText '\n' (String.ofList (unifyBreaks text.toList))).filterMap fileOutput?

/-- Outputs with others put into them. -/
def addOutputs (outputs more : List (String × Value)) : List (String × Value) :=
  more.foldl (fun m (k, v) => putPair k v m) outputs

/-! ## Starting commands -/

/-- The directory of a step, and whether something is there. -/
def directoryOf (setting : Setting) (step : Step) : Except Fault (String × Bool) := do
  let path := resolvePath setting.root ((step.cwd.filter (· ≠ "")).getD ".")
  if path.toList.contains '\x00' then throw (.directory path .zeroInPath)
  match setting.files.isThere [] path with
  | .ok found => return (path, found)
  | .error cause => throw (.directory path cause)

/-- Why the command of a step is not started at a path where something is. The names of variables are
looked at first, then all that is handed to the system, and the directory is entered last. -/
def startFault? (setting : Setting) (env : List (String × String)) (step : Step) (path : String)
    (c : CommandScript) : Option Fault :=
  let hasZero (text : String) : Bool := text.toList.contains '\x00'
  if env.any fun (k, _) => k.toList.contains '=' then some .variableName
  else if hasZero step.run || env.any fun (k, v) => hasZero k || hasZero v then some .zeroInText
  else
    match setting.files.find [] path with
    | .ok .directory => c.refusal.map .refused
    | _ => some (.directory path .notDirectory)

/-! ## Stages -/

/-- A command that was started. -/
structure Started where
  command : String
  directory : String
  environment : List (String × String)
  signals : List String

/-- How far the commands of a stage have come. -/
structure Progress where
  outputs : List (String × Value) := []
  logs : String := ""
  file : OutputFile := .holds .empty
  cancelled : Bool := false
  started : List Started := []

/-- Takes in what a command has printed. -/
def Progress.takeIn (p : Progress) (out err : String) : Progress :=
  { p with outputs := addOutputs p.outputs (printedOutputs out), logs := p.logs ++ out ++ err }

def Progress.cancelledReport (p : Progress) : BodyReport :=
  { status := .cancelled, outputs := p.outputs, logs := p.logs }

/-- How many characters of the log of a failed stage are kept. -/
def keptLog : Nat := 4000

def lastChars (n : Nat) (s : String) : String := String.ofList (s.toList.drop (s.length - n))

/-- The report on a stage with a failed step. -/
def failedStep (i : Instance) (message logs : String) (exitCode : Option Int := none) :
    BodyReport :=
  .failure (StageFailure.text { stage := i.id, message, exitCode }) logs

/-- Starts the command of a step in a directory, and watches it to its end. -/
def runCommand (setting : Setting) (env : List (String × String)) (step : Step)
    (directory : String) (c : CommandScript) (p : Progress) : CommandEnd × Progress :=
  let (ending, cancelled) := watch setting c c.looks 0 p.cancelled
  (ending, { p with
    cancelled
    file := c.file p.file
    started := p.started ++ [⟨step.run, directory, env, signals c ending⟩] })

/-- Runs steps one after the other. The next command to be started does what the first script says,
which may be that the system does not start it; without a script it ends at once. All that it has
printed is read as text when it has come to its end, however it did, and the file for outputs after
the last step. A command that has taken too long leaves nothing behind. A step finds the files and
directories as the commands before it have left them. -/
def runSteps (setting : Setting) (i : Instance) (env : List (String × String)) :
    List Step → List CommandScript → Progress → Except Fault BodyReport × Progress
  | [], _, p =>
    match p.file.text with
    | .error fault => (.error fault, p)
    | .ok text =>
      let outputs := addOutputs p.outputs (fileOutputs text)
      (.ok { status := .succeeded, outputs, logs := p.logs }, p)
  | step :: steps, scripts, p =>
    if p.cancelled then (.ok p.cancelledReport, p)
    else
      match directoryOf setting step with
      | .error fault => (.error fault, p)
      | .ok (path, false) =>
        (.ok (failedStep i s!"step '{step.name}' cwd not found: {path}" p.logs), p)
      | .ok (path, true) =>
        let script := scripts.headD {}
        match startFault? setting env step path script with
        | some fault => (.error fault, p)
        | none =>
          let (ending, p) := runCommand setting env step path script p
          match setting.reads script.stdout, setting.reads script.stderr with
          | some out, some err =>
            let heard := p.takeIn out err
            match ending with
            | .timedOut =>
              let limit := (setting.limit.map (·.text)).getD ""
              (.ok (failedStep i s!"step '{step.name}' timed out after {limit}s" p.logs), p)
            | .stopped => (.ok heard.cancelledReport, heard)
            | .exited =>
              if script.code = 0 then
                runSteps (setting.after script) i env steps scripts.tail heard
              else (.ok (failedStep i s!"step '{step.name}': {step.run}"
                (lastChars keptLog heard.logs) (some script.code)), heard)
          | _, _ => (.error .noText, p)

/-- Runs the commands of an instance. Gives its report, or the fault that it breaks off with, and
the commands that were started. -/
def run (setting : Setting) (i : Instance) (inputs : List (String × Value))
    (scripts : List CommandScript) (cancelled : Bool := false) :
    Except Fault BodyReport × List Started :=
  let (result, p) :=
    runSteps setting i (environment i inputs) i.template.steps scripts { cancelled }
  (result, p.started)

end Shell

end GatedPipeline
