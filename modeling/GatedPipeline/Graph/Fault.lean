-- What is wrong with a workflow before any of its stages starts.
import GatedPipeline.Text.Quoted
import GatedPipeline.Stage.Matrix
import GatedPipeline.Condition.Expr
namespace GatedPipeline
open GatedPipeline.Text

inductive PlanFault where
  | matrix (fault : MatrixSpec.Fault)
  | duplicateStage (id : String)
  /-- The stages that are on a cycle or depend on one. -/
  | cycle (stuck : List String)
  | unknownDependency (stage dependency : String) (known : List String)
  | ambiguousOutput (stage reference : String) (producers : List String)
  | condition (expression : String) (fault : Condition.ParseFault)
  deriving DecidableEq, Repr

def PlanFault.message : PlanFault → String
  | .matrix fault => fault.message
  | .duplicateStage id => s!"Duplicate stage identity: {id}"
  | .cycle stuck => "Stage graph has a cycle. Stuck stages: " ++ quotedList stuck
  | .unknownDependency stage dependency known =>
    s!"Stage '{stage}' depends on unknown '{dependency}'" ++
      if known.isEmpty then "" else ". Known: " ++ quotedList known
  | .ambiguousOutput stage reference producers =>
    s!"Stage '{stage}' input '{reference}' is produced by " ++ quotedList producers ++
      "; qualify it with matrix coordinates, e.g. name[dim=value].key"
  | .condition expression fault => fault.message expression

/-- Whether the workflow is at fault. A number with too many digits is not its fault. -/
def PlanFault.isConfiguration : PlanFault → Bool
  | .condition _ (.tooManyDigits _) => false
  | _ => true

end GatedPipeline
