-- Bodies as JSON values: what one is told to do, and what one reports.
import GatedPipeline.Json.Basic
import GatedPipeline.Body
namespace GatedPipeline

/-- The outputs in a field. -/
def outputsAt (j : Json) : List (String × Value) := (j.objectAt "outputs").asValuePairs

/-- What a body is told to do. -/
def BodyScript.ofJson (j : Json) : BodyScript :=
  match j with
  | .text _ => .default
  | .object _ =>
    match j.textAt? "status", j.textAt? "fail", j.textAt? "raise" <|> j.textAt? "crash" with
    | some status, _, _ => .report {
        status := BodyStatus.ofName status, outputs := outputsAt j, error := j.textAt? "error" }
    | none, some message, _ => .fails message ((j.field? "exit_code").map Json.asWhole)
    | none, none, some kind => .raises { kind, message := j.textAt "message" }
    | none, none, none => .outputs (outputsAt j)
  | _ => .nothing

/-- The fields of a report. -/
def BodyReport.fields (r : BodyReport) : List (String × Json) :=
  [("status", .text r.status.name), ("ok", .bool (r.status = .succeeded)),
    ("outputs", .map .value r.outputs), ("error", .optText r.error), ("logs", .text r.logs)]

end GatedPipeline
