-- Declarations of stages and matrices as JSON values.
import GatedPipeline.Description.Workflow
import GatedPipeline.Stage.Builder
namespace GatedPipeline

/-- The matrix that an object declares, with some dimensions under `dims`. -/
def MatrixSpec.declared (j : Json) : MatrixSpec :=
  let m := MatrixSpec.ofJson j
  let later := MatrixSpec.ofJson (.object [("dimensions", j.objectAt "dims")])
  .ofDimensions m.dimensions later.dimensions m.includes m.excludes

namespace StageTemplate

/-- The stage that an object declares. The steps under `steps_list` come first. -/
def declared (j : Json) : StageTemplate :=
  let t := StageTemplate.ofJson j
  { t with
    steps := (j.listAt "steps_list").map Step.ofJson ++ t.steps
    env := shownPairs (j.objectAt "env").asValuePairs }.within (j.textAt? "cwd")

/-- The stage with the part that a call adds: its name, and its argument. -/
def afterCall (t : StageTemplate) (call : Json) : StageTemplate :=
  let argument := (call.asList[1]?).getD .null
  let texts := argument.asList.map Json.asText
  match (call.asList.headD .null).asText with
  | "depends_on" => t.dependsOn texts
  | "consumes" => t.consumes texts
  | "produces" => t.produces texts
  | "when" => t.when (texts.headD "")
  | "gated_by" => t.gatedBy (texts.headD "")
  | "as_release" => t.asRelease
  | "with_env" => t.withEnv argument.asValuePairs
  | "over" => t.overMatrix (.ofJson (argument.objectAt "matrix")) (argument.flagAt "fail_fast")
  | _ => t.defineStep (.ofJson argument)

/-- The stage that an object with calls builds. -/
def built (j : Json) : StageTemplate :=
  (j.listAt "calls").foldl afterCall { name := j.textAt "name" }

end StageTemplate

end GatedPipeline
