-- Starting and resuming runs. All runs of an orchestrator share its gate
-- table, its groups and its store.
import GatedPipeline.Workflow
import GatedPipeline.Group
import GatedPipeline.Run.Turn
import GatedPipeline.Trigger.Record
namespace GatedPipeline
open GatedPipeline.Text

structure Orchestrator where
  gates : GateTable Nat := {}
  store : Option RunStore := none
  groups : Groups Nat := {}
  /-- The policies that have been attached: the pattern, and the mark of the approval. -/
  attached : List (String × String) := []
  /-- The runs that are being executed, each with its key. -/
  active : List (String × Nat) := []
  /-- The number of workers of a run whose workflow does not say. -/
  maxParallel : Int := 4
  gateTimeout : Option Time := none
  deriving Inhabited

/-- Why a run is not started. -/
inductive LaunchFault where
  | condition (b : Condition.Breakdown)
  | plan (fault : PlanFault)
  | store (fault : RunStore.Fault)
  | noStore
  | needsSource (runId : String)
  | trigger (fault : TriggerFault)
  | unknownState (name : String)
  | unknownInstance (id : String)
  deriving Inhabited

def LaunchFault.message : LaunchFault → String
  | .condition b => b.message
  | .plan fault => fault.message
  | .store fault => fault.message
  | .noStore => "resume requires a run store"
  | .needsSource runId => s!"run {runId} recorded a release decision; a version source is required"
  | .trigger fault => fault.message
  | .unknownState name => quoted name ++ " is not a valid State"
  | .unknownInstance id => id

/-- What comes of the attempt to start a run: its scheduler and its group, unless it fails or the
workflow does not want the trigger. -/
inductive Prepared where
  | notTriggered
  | failed (fault : LaunchFault)
  | ready (s : Scheduler) (group : String)

namespace Orchestrator

/-! ## Preparing a run -/

/-- Attaches the policies of a workflow that have not been attached before. -/
def attachPolicies (o : Orchestrator) (w : Workflow) : Orchestrator :=
  w.approvals.foldl (fun o (pattern, a) =>
    if o.attached.contains (pattern, a.mark) then o
    else { o with
      gates := o.gates.attach pattern a.policy
      attached := o.attached ++ [(pattern, a.mark)] }) o

/-- The number of workers for a workflow. -/
def workersFor (o : Orchestrator) (w : Workflow) : Int :=
  (w.maxParallel.filter (· ≠ 0)).getD o.maxParallel

/-- The scheduler of a run. -/
def schedulerFor (o : Orchestrator) (w : Workflow) (run : Run) (engine : Option ReleaseEngine)
    (key : Nat) (now : Time) : Scheduler :=
  { run, now, engine
    self := key
    maxParallel := o.workersFor w
    failFast := w.failFast
    gateTimeout := o.gateTimeout }

/-- Whether the filter of a workflow lets a trigger through. -/
def wants (w : Workflow) (t : Trigger) : Except Condition.Breakdown Bool :=
  match w.on with
  | none => .ok true
  | some e => if e = "" then .ok true else (Condition.evaluate (some e) { trigger := t }).holds

/-- Prepares a new run. -/
def prepareStart (o : Orchestrator) (w : Workflow) (t : Trigger) (source : Option VersionSource)
    (runId : String) (key : Nat) (now : Time) : Orchestrator × Prepared :=
  let t := if t.workflow = "" then { t with workflow := w.name } else t
  match wants w t with
  | .error b => (o, .failed (.condition b))
  | .ok false => (o, .notTriggered)
  | .ok true =>
    let o := o.attachPolicies w
    match w.plan with
    | .error fault => (o, .failed (.plan fault))
    | .ok graph =>
      let run := Run.new runId t w.name graph now
      let engine := source.map fun source => { source : ReleaseEngine }
      let group := w.concurrencyGroup t
      match o.store with
      | none => (o, .ready (o.schedulerFor w run engine key now) group)
      | some store =>
        match store.createRun runId t w.name group now with
        | .error fault => (o, .failed (.store fault))
        | .ok store =>
          ({ o with store := some store }, .ready (o.schedulerFor w run engine key now) group)

/-! ## Taking up a recorded run -/

/-- The run with its recorded successes. -/
def restoreStages (run : Run) (stages : List (String × StageRecord)) : Run :=
  stages.foldl (fun run (id, old) =>
    if (run.graph.instance? id).isSome && old.state = .succeeded then
      { run with
        stages := putPair id { run.record id with state := .succeeded, outputs := old.outputs }
          run.stages
        outputs := run.outputs.restore id old.outputs }
    else run) run

/-- The gate table with the recorded gates. Those that the end of the run closed are pending
again. -/
def restoreGates (t : GateTable Nat) (gates : List Gate) (now : Time) : GateTable Nat :=
  gates.foldl (fun t g =>
    if g.actor = some runFinishedActor then t.reopen g now else t.restore g) t

/-- The run with its recorded release decision. -/
def restoreRelease (run : Run) (outcome : ReleaseOutcome) : Run :=
  if outcome.decision = .release then
    { run with
      outputs := run.outputs.restore runScope [("release_tag", .text outcome.tag)] }
  else run

/-- Prepares a recorded run to go on where it stopped. -/
def prepareResume (o : Orchestrator) (w : Workflow) (source : Option VersionSource)
    (runId : String) (key : Nat) (now : Time) : Orchestrator × Prepared :=
  match o.store with
  | none => (o, .failed .noStore)
  | some store =>
    match store.load runId with
    | .error fault => (o, .failed (.store fault))
    | .ok old =>
      let o := o.attachPolicies w
      match w.plan with
      | .error fault => (o, .failed (.plan fault))
      | .ok graph =>
        let run := restoreStages (Run.new runId old.row.trigger w.name graph now) old.stages
        let o := { o with gates := restoreGates o.gates old.gates now }
        let group :=
          if old.row.group = "" then w.concurrencyGroup old.row.trigger else old.row.group
        let o' := { o with store := some (store.reopenRun runId now) }
        match old.release, source with
        | none, source =>
          let engine := source.map fun source => { source : ReleaseEngine }
          (o', .ready (o.schedulerFor w run engine key now) group)
        | some _, none => (o, .failed (.needsSource runId))
        | some outcome, some source =>
          let engine := { source : ReleaseEngine }.restore outcome
          (o', .ready (o.schedulerFor w (restoreRelease run outcome) engine key now) group)

/-! ## Executing a run -/

/-- Enters a prepared run into the books: it is active, asks older runs of its group in the store
to stop, and enters its group. Gives what becomes of it there, and the run that it cancels. -/
def enroll (o : Orchestrator) (runId group : String) (cancelInProgress : Bool) (key : Nat) :
    Orchestrator × Entry × Option (Entrant Nat) :=
  let o := { o with active := putPair runId key o.active }
  let o := if cancelInProgress then
      { o with store := o.store.map fun store =>
          (store.supersede group runId (Groups.supersededMessage runId)).1 }
    else o
  let (groups, entry, cancelled) := o.groups.enter group ⟨runId, key⟩ cancelInProgress
  ({ o with groups }, entry, cancelled)

/-- Takes a run that is over out of the books. -/
def dismiss (o : Orchestrator) (runId group : String) (entered : Bool) : Orchestrator :=
  { o with
    groups := if entered then o.groups.leave group runId else o.groups
    active := dropPair runId o.active }

end Orchestrator

end GatedPipeline
