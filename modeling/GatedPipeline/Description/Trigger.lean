-- Triggers as JSON objects.
import GatedPipeline.Json.Basic
import GatedPipeline.Trigger.Record
namespace GatedPipeline

namespace TriggerRecord

/-- The record that an object describes. -/
def ofJson (j : Json) : Except TriggerFault TriggerRecord :=
  ofFields fun field => (j.member? field).map Json.toValue

def toJson (r : TriggerRecord) : Json :=
  .object [("event", .text r.event.name), ("ref", .value r.ref), ("fork", .bool r.fork),
    ("actor", .value r.actor), ("values", .map .value r.values),
    ("changed_files", .list (r.changedFiles.map .value)), ("workflow", .value r.workflow)]

end TriggerRecord

namespace Trigger

/-- The trigger that an object describes: by default a push to the main branch. -/
def ofJson (j : Json) : Except TriggerFault Trigger := do
  let event ← TriggerRecord.eventOf (.text (j.textAt "event" "push"))
  return {
    event
    ref := j.textAt "ref" "refs/heads/main"
    fork := j.flagAt "fork"
    actor := j.textAt "actor"
    values := j.textMapAt "values"
    changedFiles := j.textsAt "changed_files"
    workflow := j.textAt "workflow" }

def toJson (t : Trigger) : Json :=
  .object [("event", .text t.event.name), ("ref", .text t.ref), ("fork", .bool t.fork),
    ("actor", .text t.actor), ("values", .map .text t.values),
    ("changed_files", .texts t.changedFiles), ("workflow", .text t.workflow)]

end Trigger

end GatedPipeline
