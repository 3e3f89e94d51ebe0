-- Stage bodies: what a body reports, and how a handler's answer becomes a
-- report.
import GatedPipeline.Pairs
import GatedPipeline.Stage.Basic
namespace GatedPipeline
open GatedPipeline.Text

/-! ## Reports -/

/-- How a body ended. -/
inductive BodyStatus where
  | succeeded | failed | cancelled
  /-- A word that is none of these. It counts as a failure. -/
  | other (word : String)
  deriving DecidableEq, Repr, Inhabited

namespace BodyStatus

def name : BodyStatus → String
  | .succeeded => "succeeded" | .failed => "failed" | .cancelled => "cancelled"
  | .other word => word

def ofName (s : String) : BodyStatus :=
  if s = "succeeded" then .succeeded
  else if s = "failed" then .failed
  else if s = "cancelled" then .cancelled
  else .other s

end BodyStatus

/-- What a body reports: how it ended, and the outputs it wrote. -/
structure BodyReport where
  status : BodyStatus
  outputs : List (String × Value) := []
  error : Option String := none
  logs : String := ""
  deriving Inhabited

namespace BodyReport

def success (outputs : List (String × Value) := []) : BodyReport :=
  { status := .succeeded, outputs }

def failure (error : String) (logs : String := "") : BodyReport :=
  { status := .failed, error := some error, logs }

end BodyReport

/-! ## Failures -/

/-- A failure that a body declares, with the exit code of a command if there is one. -/
structure StageFailure where
  stage : String
  message : String
  exitCode : Option Int := none
  deriving DecidableEq, Repr

def StageFailure.text (f : StageFailure) : String :=
  match f.exitCode with
  | some code => s!"[{f.stage}] failed (exit={code}): {f.message}"
  | none => s!"[{f.stage}] failed: {f.message}"

/-- An error that a body did not declare: its kind and its text. -/
structure BodyError where
  kind : String
  message : String
  deriving DecidableEq, Repr

/-- The error with its kind. The text of a missing key is the key in quotes. -/
def BodyError.text (e : BodyError) : String :=
  e.kind ++ ": " ++ if e.kind = "KeyError" then quoted e.message else e.message

/-! ## Handlers -/

/-- What a handler does when it is called. -/
inductive HandlerAnswer where
  | nothing
  | outputs (values : List (String × Value))
  | report (r : BodyReport)
  | fails (f : StageFailure)
  | raises (e : BodyError)
  deriving Inhabited

/-- The report on a handler's answer. -/
def HandlerAnswer.toReport : HandlerAnswer → BodyReport
  | .nothing => .success
  | .outputs values => .success values
  | .report r => r
  | .fails f => .failure f.text
  | .raises e => .failure e.text

/-- The handlers of a host: one for each stage that has its own, and one for the others. -/
structure Handlers where
  byStage : List (String × HandlerAnswer) := []
  default : Option HandlerAnswer := none

/-- The report on the body of a stage. A stage without a handler does nothing and succeeds. -/
def Handlers.run (h : Handlers) (i : Instance) : BodyReport :=
  match h.byStage.lookup i.name <|> h.default with
  | some answer => answer.toReport
  | none => .success

/-! ## Scripted bodies -/

/-- What a body is told to do. -/
inductive BodyScript where
  /-- Every declared output gets the instance and the key as its value. -/
  | default
  | nothing
  | outputs (values : List (String × Value))
  | report (r : BodyReport)
  | fails (message : String) (exitCode : Option Int)
  | raises (e : BodyError)
  deriving Inhabited

/-- Every declared output with the instance and the key as its value. -/
def defaultOutputs (i : Instance) : List (String × Value) :=
  ofPairs (i.template.outputs.map fun k => (k, .text (i.id ++ "/" ++ k)))

/-- What the handler of a scripted body answers. -/
def BodyScript.answer (b : BodyScript) (i : Instance) : HandlerAnswer :=
  match b with
  | .default => .outputs (defaultOutputs i)
  | .nothing => .nothing
  | .outputs values => .outputs values
  | .report r => .report r
  | .fails message exitCode => .fails { stage := i.id, message, exitCode }
  | .raises e => .raises e

/-- What a handler answers that looks at the cancellation itself. -/
def BodyScript.answerSeeing (b : BodyScript) (i : Instance) (cancelled : Bool) : HandlerAnswer :=
  match b with
  | .default => .outputs [("cancelled", .text (Value.bool cancelled).shown)]
  | b => b.answer i

/-- The report of a scripted body. One that was cancelled before it began does nothing. -/
def BodyScript.run (b : BodyScript) (i : Instance) (cancelled : Bool) : BodyReport :=
  if cancelled then { status := .cancelled } else (b.answer i).toReport

end GatedPipeline
