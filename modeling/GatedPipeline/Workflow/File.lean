-- Workflow files: what a file defines, and the workflow that it stands for.
import GatedPipeline.Text.Path
import GatedPipeline.Workflow
namespace GatedPipeline
open GatedPipeline.Text

/-- What a name in a workflow file stands for. -/
inductive Defined where
  | workflow (w : Workflow)
  | stages (ts : List StageTemplate)
  /-- Something that is neither. -/
  | other
  deriving Inhabited

/-- A name that a workflow file defines. -/
structure Definition where
  value : Defined
  /-- Whether the name is a function that gives the value. -/
  callable : Bool := false
  deriving Inhabited

/-- Why a file gives no workflow. -/
inductive LoadFault where
  | notFound (path : String)
  | wrongSuffix (name : String)
  | noWorkflow
  deriving DecidableEq, Repr

def LoadFault.message : LoadFault → String
  | .notFound path => s!"Workflow file not found: {path}"
  | .wrongSuffix name => s!"Workflow must be a .py file, got: {name}"
  | .noWorkflow =>
    "Workflow file must define workflow() -> Workflow | List[StageTemplate], " ++
      "WORKFLOW = Workflow(...) or STAGES = [StageTemplate, ...]."

/-- The suffix of workflow files. -/
def workflowSuffix : String := ".py"

/-- What the definitions of a file come to: a function `workflow` is called; else the value of
`WORKFLOW` counts, and else that of `STAGES`. -/
def defined (ds : List (String × Definition)) : Defined :=
  let value (d : Definition) : Defined := if d.callable then .other else d.value
  match (getPair? "workflow" ds).filter (·.callable), getPair? "WORKFLOW" ds,
      getPair? "STAGES" ds with
  | some d, _, _ => d.value
  | none, some d, _ => value d
  | none, none, some d => value d
  | none, none, none => .other

/-- The workflow of a file with these definitions; without definitions there is no file. A list
of stages is a workflow under the name of its file. -/
def loadWorkflow (path : String) (definitions : Option (List (String × Definition))) :
    Except LoadFault Workflow :=
  match definitions with
  | none => .error (.notFound path)
  | some ds =>
    if fileSuffix path ≠ workflowSuffix then .error (.wrongSuffix (fileName path))
    else match defined ds with
      | .workflow w => .ok w
      | .stages stages => .ok { name := fileStem path, stages }
      | .other => .error .noWorkflow

end GatedPipeline
