-- Recorded runs, and whole stores, as JSON objects.
import GatedPipeline.Description.Gate
import GatedPipeline.Description.Release
import GatedPipeline.Description.Trigger
import GatedPipeline.Store.Basic
namespace GatedPipeline
open GatedPipeline.Text

/-- Gates in the order of their identities. -/
def sortedGates (gs : List Gate) : List Gate := sortByText Gate.id gs

namespace RunStore

def PersistedRun.toJson (p : PersistedRun) : Json :=
  .object [("run", .text p.runId), ("workflow", .text p.row.workflow),
    ("group", .text p.row.group), ("trigger", p.row.trigger.toJson),
    ("status", .text p.row.status.name), ("errors", .texts p.row.errors),
    ("stages", .list ((sortByText (·.1) p.stages).map fun (id, r) =>
      .list [.text id, .text r.state.name, .map .value r.outputs, .optText r.error])),
    ("gates", .list ((sortedGates p.gates).map Gate.toJson)),
    ("release", .optional ReleaseOutcome.toJson p.release)]

/-! ## Whole stores -/

def rowToJson (id : String) (r : RunRow) : Json :=
  .object [("run", .text id), ("workflow", .text r.workflow), ("group", .text r.group),
    ("trigger", r.trigger.toJson), ("status", .text r.status.name), ("errors", .texts r.errors),
    ("created_at", .time r.createdAt), ("finished_at", .optional .time r.finishedAt),
    ("cancel", .optText r.cancelRequest)]

def rowOfJson? (j : Json) : Option (String × RunRow) := do
  let trigger ← (Trigger.ofJson (j.objectAt "trigger")).toOption
  let status ← RunStatus.ofName? (j.textAt "status")
  return (j.textAt "run", {
    workflow := j.textAt "workflow", group := j.textAt "group", trigger, status
    errors := j.textsAt "errors", createdAt := (j.timeAt? "created_at").getD 0
    finishedAt := j.timeAt? "finished_at", cancelRequest := j.textAt? "cancel" })

def recordToJson (key : String × String) (r : StageRecord) : Json :=
  .object [("run", .text key.1), ("instance", .text key.2), ("state", .text r.state.name),
    ("outputs", .pairs .value r.outputs), ("error", .optText r.error),
    ("started_at", .optional .time r.startedAt), ("finished_at", .optional .time r.finishedAt)]

def recordOfJson? (j : Json) : Option ((String × String) × StageRecord) := do
  let state ← State.ofName? (j.textAt "state")
  return ((j.textAt "run", j.textAt "instance"), {
    state, outputs := (j.objectAt "outputs").asValuePairs, error := j.textAt? "error"
    startedAt := j.timeAt? "started_at", finishedAt := j.timeAt? "finished_at" })

def releaseToJson (id : String) (o : ReleaseOutcome) : Json :=
  .object [("run", .text id), ("outcome", o.toJson)]

def releaseOfJson? (j : Json) : Option (String × ReleaseOutcome) := do
  let o := j.objectAt "outcome"
  let decision ← ReleaseDecision.ofName? (o.textAt "decision")
  return (j.textAt "run", {
    decision, candidate := o.textAt "candidate", latest := o.textAt? "latest_raw" })

def gateOfJson? (j : Json) : Option (String × Gate) := do
  let g ← (Gate.ofJson j 0).toOption
  return (g.id, g)

def toJson (s : RunStore) : Json :=
  .object [("runs", .list (s.runs.map fun (id, r) => rowToJson id r)),
    ("stages", .list (s.stages.map fun (key, r) => recordToJson key r)),
    ("gates", .list (s.gates.map fun (_, g) => g.toJson)),
    ("releases", .list (s.releases.map fun (id, o) => releaseToJson id o))]

/-- The store that an object describes; none when a part of it is not as it should be. -/
def ofJson? (j : Json) : Option RunStore := do
  return {
    runs := ← (j.listAt "runs").mapM rowOfJson?
    stages := ← (j.listAt "stages").mapM recordOfJson?
    gates := ← (j.listAt "gates").mapM gateOfJson?
    releases := ← (j.listAt "releases").mapM releaseOfJson? }

end RunStore

end GatedPipeline
