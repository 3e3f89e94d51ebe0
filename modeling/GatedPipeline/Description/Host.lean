-- Hosts and their runs as JSON values: how they are set up, what they do, and
-- how their runs have ended.
import GatedPipeline.Description.Release
import GatedPipeline.Description.Workflow
import GatedPipeline.Description.Trigger
import GatedPipeline.Host
namespace GatedPipeline

/-! ## Setting up -/

/-- The run of a scheduler alone that an object describes. -/
def BareLaunch.ofJson (j : Json) : Except LaunchFault BareLaunch := do
  let trigger ← (Trigger.ofJson (j.objectAt "trigger")).mapError .trigger
  return {
    stages := (j.listAt "stages").map .ofJson, trigger
    preset := j.textMapAt "preset"
    source := (j.field? "version").map (VersionSource.ofJson trigger)
    failFast := j.flagAt "fail_fast", gateTimeout := j.timeAt? "gate_timeout"
    maxParallel := ((j.field? "max_parallel").map Json.asWhole).getD 4
    cancelReason := (j.member? "cancel").map fun r =>
      match r with | .text s => s | _ => defaultCancelReason
    journaled := j.flagAt "journal" }

/-- The launch of a scheduler alone that an object describes. -/
def Launch.ofBareJson (j : Json) : Launch :=
  match BareLaunch.ofJson j with
  | .ok l => .bare l
  | .error fault => .faulty fault

/-- Whether what a launched run writes down is of interest. -/
def Launch.isJournaled : Launch → Bool
  | .bare l => l.journaled
  | _ => false

/-- The host that an object describes. -/
def Host.ofJson (j : Json) : Host :=
  let plain : Orchestrator := { gates := { listeners := [0] } }
  { orchestrator := { plain with
      store := if j.flagAt "store" then some {} else none
      maxParallel := ((j.field? "max_parallel").map Json.asWhole).getD 4
      gateTimeout := j.timeAt? "gate_timeout" } }

/-! ## What runs do -/

/-- A journal write as a list. -/
def JournalWrite.toJson : JournalWrite → Json
  | .state _ id r => .texts ["journal-state", id, r.state.name]
  | .gate g => .list [.text "journal-gate", .text g.id, .text g.status.name, .optText g.actor]
  | .release _ o => .texts ["journal-release", o.decision.name, o.tag]
  | .finish _ status errors => .list [.text "journal-finish", .text status.name, .texts errors]

/-- What a scheduler does as a list, if it is shown. -/
def Effect.toJson? (journaled : Bool) : Effect → Option Json
  | .moved id r => some (.list [.text r.state.name, .text id, .optText r.error])
  | .dispatched id inputs =>
    some (.list [.text "dispatch", .text id, .pairs .value inputs])
  | .shutdown wait bodies =>
    some (.list [.text "shutdown", .bool wait, .bool true, .pairs .bool bodies])
  | .notice .. => none
  | .journal w => if journaled then some w.toJson else none

namespace Host

/-- The newest session of each run. -/
def newestSessions (p : Host) : List (String × Session) :=
  p.runIds.filterMap fun id => ((p.newest? id).bind p.session?).map (id, ·)

/-- What the runs did since the last look, by run. -/
def eventsJson (p : Host) : List (String × List Json) :=
  p.log.foldl (fun m (key, e) =>
    match p.session? key with
    | some s =>
      match e.toJson? s.launch.isJournaled with
      | some j => putPair s.runId (((getPair? s.runId m).getD []) ++ [j]) m
      | none => m
    | none => m) []

/-- All that is known of a run that has ended. -/
def recordJson (p : Host) (s : Scheduler) : Json :=
  let r := s.run
  let instances := r.stages.map fun (id, i) => Json.list [.text id, .text i.state.name,
    .optText i.error, .map .value i.outputs, .optional .time i.startedAt,
    .optional .time i.finishedAt]
  .object [("status", .text r.status.name), ("ok", .bool (r.status = .succeeded)),
    ("errors", .texts r.errors), ("summary", .pairs (fun r => .text r.state.name) r.stages),
    ("workflow", .text r.workflow), ("dispatched", .whole s.dispatched),
    ("outputs", .map (.map .value) r.outputs.published),
    ("gates", .map (fun s => .text s.name) (p.orchestrator.gates.statuses r.id)),
    ("started", .time r.startedAt), ("finished", .optional .time r.finishedAt),
    ("instances", .list instances)]

/-- The records of all runs that have ended. -/
def recordsJson (p : Host) : Json :=
  .object (p.newestSessions.filterMap fun (id, s) =>
    match s.phase, s.scheduler with
    | .over .finished, some s => some (id, p.recordJson s)
    | _, _ => none)

end Host

end GatedPipeline
