-- Workflows as JSON objects: their stages, matrices and approval policies.
import GatedPipeline.Json.Basic
import GatedPipeline.Workflow.File
namespace GatedPipeline

def MatrixSpec.ofJson (j : Json) : MatrixSpec :=
  { dimensions := (j.pairsAt "dimensions").map fun (d, vs) => (d, vs.asList.map Json.toValue)
    includes := (j.listAt "include").map Json.asValuePairs
    excludes := (j.listAt "exclude").map Json.asValuePairs }

def MatrixSpec.toJson (m : MatrixSpec) : Json :=
  let row (r : List (String × Value)) : Json := .pairs .value r
  .object [("dimensions", .pairs (fun vs => .list (vs.map .value)) m.dimensions),
    ("include", .list (m.includes.map row)), ("exclude", .list (m.excludes.map row)),
    ("nonempty", .bool m.nonempty)]

def Step.ofJson (j : Json) : Step := ⟨j.textAt "name", j.textAt "run", j.textAt? "cwd"⟩

def StageTemplate.ofJson (j : Json) : StageTemplate :=
  { name := j.textAt "name"
    steps := (j.listAt "steps").map Step.ofJson
    needs := j.textsAt "needs"
    inputs := j.textsAt "inputs"
    outputs := j.textsAt "outputs"
    condition := j.textAt? "when"
    matrix := (j.field? "matrix").map MatrixSpec.ofJson
    environment := j.textAt? "environment"
    release := j.flagAt "release"
    failFast := j.flagAt "fail_fast"
    env := j.textPairsAt "env" }

def Step.toJson (s : Step) : Json := .list [.text s.name, .text s.run, .optText s.cwd]

def StageTemplate.toJson (t : StageTemplate) : Json :=
  .object [("name", .text t.name), ("steps", .list (t.steps.map Step.toJson)),
    ("needs", .texts t.needs), ("inputs", .texts t.inputs), ("outputs", .texts t.outputs),
    ("condition", .optText t.condition), ("environment", .optText t.environment),
    ("release", .bool t.release), ("fail_fast", .bool t.failFast), ("env", .pairs .text t.env),
    ("matrix", .optional MatrixSpec.toJson t.matrix)]

mutual

/-- The policy that an object describes. One of another kind never approves. -/
def Policy.ofJson : Json → Policy
  | .object ms =>
    let j := Json.object ms
    match j.textAt "kind" with
    | "when" => .when (j.textAt "expr")
    | "after" => .afterApproved (j.textsAt "gates")
    | "all" => .allOf (policiesIn ms)
    | _ => .broken
  | _ => .broken

/-- The policies in the field for them. -/
def policiesIn : List (String × Json) → List Policy
  | [] => []
  | (k, .list js) :: ms => if k = "of" then policiesOf js else policiesIn ms
  | _ :: ms => policiesIn ms

def policiesOf : List Json → List Policy
  | [] => []
  | j :: js => Policy.ofJson j :: policiesOf js

end

namespace Workflow

/-- The workflow that an object describes, under the name it is found by unless it has its own.
The mark of its policies is the name it is found by. -/
def ofJson (found : String) (j : Json) : Workflow :=
  let plain : Workflow := { name := j.textAt "name" found }
  { plain with
    stages := (j.listAt "stages").map StageTemplate.ofJson
    on := j.textAt? "on"
    concurrency := j.textAt "concurrency" plain.concurrency
    cancelInProgress := j.flagAt "cancel_in_progress" true
    failFast := j.flagAt "fail_fast"
    maxParallel := (j.field? "max_parallel").map Json.asWhole
    approvals := (j.pairsAt "approvals").map fun (p, q) => (p, ⟨Policy.ofJson q, found⟩) }

def toJson (w : Workflow) : Json :=
  .object [("name", .text w.name), ("stages", .texts (w.stages.map (·.name))),
    ("on", .optText w.on), ("concurrency", .text w.concurrency),
    ("cancel_in_progress", .bool w.cancelInProgress), ("fail_fast", .bool w.failFast),
    ("max_parallel", .optional .whole w.maxParallel),
    ("approvals", .pairs (fun a => .text a.policy.name) w.approvals)]

end Workflow

/-- What a name in a workflow file stands for. -/
def Definition.ofJson (j : Json) : Definition :=
  { callable := j.flagAt "callable"
    value := match j.textAt "kind" with
      | "workflow" => .workflow (Workflow.ofJson "ci" (j.objectAt "workflow"))
      | "stages" => .stages ((j.listAt "stages").map StageTemplate.ofJson)
      | _ => .other }

end GatedPipeline
