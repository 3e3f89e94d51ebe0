-- What is shown to the one who starts a run.
import GatedPipeline.Calendar
import GatedPipeline.Text.Lines
import GatedPipeline.Text.Upper
import GatedPipeline.Store.Basic
namespace GatedPipeline
open GatedPipeline.Text

/-! ## Printed text -/

/-- What has been printed, and what has been printed as an error. -/
structure Printed where
  out : String := ""
  err : String := ""
  deriving DecidableEq, Inhabited

instance : Append Printed := ⟨fun a b => ⟨a.out ++ b.out, a.err ++ b.err⟩⟩

namespace Printed

def lines (ls : List String) : String := String.join (ls.map (· ++ "\n"))

/-- Prints lines. -/
def say (ls : List String) : Printed := { out := lines ls }

/-- Prints lines as an error. -/
def complain (ls : List String) : Printed := { err := lines ls }

end Printed

open Printed

/-! ## Parts of lines -/

/-- A number of seconds with one digit after the point. -/
def tenths (t : Time) : String :=
  let n := (roundHalfEven (t * 10)).natAbs
  (if t < 0 then "-" else "") ++ s!"{n / 10}.{n % 10}"

/-- The text with blanks after it up to a width. -/
def padRight (width : Nat) (s : String) : String :=
  s ++ String.ofList (List.replicate (width - s.length) ' ')

/-- A console. In debug mode it shows more. -/
structure Console where
  debug : Bool := false
  deriving Inhabited

namespace Console

/-! ## Messages -/

def header (title : String) : Printed :=
  say ["\n" ++ title, String.ofList (List.replicate title.length '-')]

def runStarted (repository workflow ref : String) (stages : Int)
    (runId : Option String := none) : Printed :=
  say (["\nRUN STARTED"] ++ ((runId.filter (· ≠ "")).map (s!"Run ID: {·}")).toList ++
    [s!"Repository: {repository}", s!"Workflow: {workflow}", s!"Ref: {ref}", s!"Stages: {stages}",
      ""])

/-- The reason of a failure; only its first line unless in debug mode. -/
def reason (c : Console) (error : Option String) : List String :=
  match error.filter (· ≠ "") with
  | none => []
  | some text =>
    if c.debug then [s!"Error details: {text}"]
    else ["Error: " ++ (textLines text).headD ""]

/-- How long a body has taken. -/
def duration (r : StageRecord) (now : Time) : String :=
  match r.startedAt with
  | none => ""
  | some start => s!" in {tenths (r.finishedAt.getD now - start)}s"

/-- A move of an instance, if it is worth showing. -/
def stage (c : Console) (id : String) (r : StageRecord) (now : Time) : Printed :=
  let because := ((r.error.filter (· ≠ "")).map (s!" ({·})")).getD ""
  match r.state with
  | .running => say [s!"STAGE STARTED: {id}"]
  | .succeeded => say [s!"STAGE SUCCEEDED: {id}{duration r now}"]
  | .failed => say (s!"STAGE FAILED: {id}" :: c.reason r.error)
  | .skipped => say [s!"STAGE SKIPPED: {id}{because}"]
  | .cancelled => say [s!"STAGE CANCELLED: {id}{because}"]
  | _ => {}

/-- One level of a plan with its number. -/
def level (n : Nat) (ids : List String) : List String := s!"level {n}:" :: ids.map ("  " ++ ·)

def plan (levels : List (List String)) : Printed :=
  header "PLAN" ++ say (levels.zipIdx.flatMap fun (ids, n) => level n ids)

def rule : String := String.ofList (List.replicate 40 '=')

/-- The states in which instances have ended, and the status of the run. -/
def results (states : List (String × String)) (status : Option String) : Printed :=
  say (["\n" ++ rule, "RESULTS", rule] ++ states.map (fun (id, s) => s!"  {id}: {upper s}") ++
    ((status.filter (· ≠ "")).map fun s => s!"\nRUN: {upper s}").toList)

def pendingGates (ids : List String) : Printed :=
  if ids.isEmpty then say ["No pending gates."]
  else header "PENDING GATES" ++ say (ids.map ("  " ++ ·))

/-- What is shown of a run in a list. -/
structure RunLine where
  runId : String
  status : String
  workflow : String
  ref : String

def runs (rs : List RunLine) : Printed :=
  if rs.isEmpty then say ["No runs recorded."]
  else say (rs.map fun r => s!"  {r.runId}  {padRight 10 r.status} {r.workflow}  {r.ref}")

def error (title message : String) (details : List String := [])
    (suggestion : Option String := none) : Printed :=
  complain ([s!"\nERROR: {title}", message] ++ details.map ("  " ++ ·) ++
    ((suggestion.filter (· ≠ "")).map ("\n" ++ ·)).toList)

/-- An error that nobody has dealt with. -/
def failure (message : String) : Printed := complain [s!"Error: {message}"]

def info (message : String) : Printed := say [message]

/-- A message that is only shown in debug mode. -/
def debugNote (c : Console) (message : String) : Printed :=
  if c.debug then complain [s!"[DEBUG] {message}"] else {}

end Console

end GatedPipeline
