-- Gates as JSON objects.
import GatedPipeline.Json.Basic
import GatedPipeline.Gate.Basic
namespace GatedPipeline

def Gate.toJson (g : Gate) : Json :=
  .object [("id", .text g.id), ("name", .text g.name), ("run", .text g.runId),
    ("status", .text g.status.name), ("actor", .optText g.actor), ("comment", .text g.comment),
    ("requested_at", .time g.requestedAt), ("decided_at", .optional .time g.decidedAt)]

/-- The gate that an object describes. It is pending unless the object says otherwise; the fault
is a status that does not exist. -/
def Gate.ofJson (j : Json) (requestedAt : Time) : Except String Gate :=
  let status := j.textAt "status" "pending"
  match GateStatus.ofName? status with
  | none => .error status
  | some status => .ok {
      name := j.textAt "name", runId := j.textAt "run", status
      actor := j.textAt? "actor", comment := j.textAt "comment"
      requestedAt := (j.timeAt? "requested_at").getD requestedAt
      decidedAt := j.timeAt? "decided_at" }

end GatedPipeline
