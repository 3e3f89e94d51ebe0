-- Stages: the declared unit of work, and its instances, one for each
-- combination of its matrix.
import GatedPipeline.Text.Find
import GatedPipeline.Stage.Matrix
namespace GatedPipeline
open GatedPipeline.Text

/-! ## Templates -/

/-- One command of a stage. -/
structure Step where
  name : String
  run : String
  cwd : Option String := none
  deriving DecidableEq, Repr, Inhabited

/-- A stage as it is declared. `needs` names other stages, `inputs` refers to their outputs,
and `environment` names the gate that guards it, with a place for each coordinate. -/
structure StageTemplate where
  name : String
  steps : List Step := []
  needs : List String := []
  inputs : List String := []
  outputs : List String := []
  condition : Option String := none
  matrix : Option MatrixSpec := none
  environment : Option String := none
  release : Bool := false
  failFast : Bool := false
  env : List (String × String) := []
  deriving Inhabited

/-! ## Instances -/

/-- The identity of an instance: the name of its stage, and its coordinates in brackets. -/
def instanceId (name : String) (coordinates : Coordinates) : String :=
  if coordinates.isEmpty then name
  else name ++ "[" ++ ",".intercalate (coordinates.map fun (d, v) => d ++ "=" ++ v) ++ "]"

/-- A stage bound to one combination of its matrix. -/
structure Instance where
  template : StageTemplate
  coordinates : Coordinates := []
  deriving Inhabited

namespace Instance

def name (i : Instance) : String := i.template.name

def id (i : Instance) : String := instanceId i.template.name i.coordinates

/-- The place that stands for a coordinate in the name of an environment. -/
def placeOf (dimension : String) : String := "\x7bmatrix." ++ dimension ++ "\x7d"

/-- The name of the gate that guards the instance, with its coordinates filled in one after
the other. -/
def gateName (i : Instance) : Option String :=
  match i.template.environment with
  | none => none
  | some env =>
    if env = "" then none
    else some (i.coordinates.foldl (fun s (d, v) => replace (placeOf d) v s) env)

end Instance

/-- The instances of a stage: one for each combination, and one if it has no matrix. -/
def StageTemplate.expand (t : StageTemplate) : Except MatrixSpec.Fault (List Instance) :=
  match t.matrix with
  | none => .ok [{ template := t }]
  | some m =>
    if m.nonempty then
      m.combinations.map fun cs => cs.map fun c => { template := t, coordinates := c }
    else .ok [{ template := t }]

/-- The instances of all stages, in the order of the stages. -/
def expandAll : List StageTemplate → Except MatrixSpec.Fault (List Instance)
  | [] => .ok []
  | t :: ts => do return (← t.expand) ++ (← expandAll ts)

end GatedPipeline
