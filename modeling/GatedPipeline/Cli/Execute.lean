-- Carrying out commands.
import GatedPipeline.Cli.Workspace
namespace GatedPipeline.Cli
open GatedPipeline.Text

namespace Workspace

/-! ## Runs -/

/-- The moves of a run as the console shows them. -/
def movesShown (c : Console) (p : Host) : Printed :=
  p.log.foldl (fun printed (_, e) =>
    match e with
    | .moved id r => printed ++ c.stage id r p.now
    | _ => printed) {}

/-- A run under way: what came of it, what was printed on the way, and what is left. -/
structure Execution where
  phase : Phase
  run : Option Run
  printed : Printed
  workspace : Workspace

/-- Launches a run on an open store, and runs it to its end. -/
def execute (ws : Workspace) (c : Console) (o : OpenStore) (workers : Option Int)
    (gateTimeout : Option Time) (runId : String) (l : Launch) (now : Time) : Execution :=
  let orchestrator : Orchestrator := {
    store := some o.store
    maxParallel := (workers.filter (· ≠ 0)).getD ws.workers
    gateTimeout }
  let p := { now, orchestrator : Host }.runAlone runId l ws.bodies
  let session := p.sessions.getLast?
  { phase := (session.map (·.phase)).getD .fresh
    run := (session.bind (·.scheduler)).map (·.run)
    printed := movesShown c p
    workspace := ws.keepStore o (p.orchestrator.store.getD {}) }

/-- The reply to a workflow that is not right. -/
def invalidWorkflow (fault : PlanFault) : Reply :=
  .failed (if fault.isConfiguration then Console.error "Invalid workflow" fault.message
    else Console.failure fault.message)

/-- The reply to a launch that was refused. -/
def refusedLaunch (fault : LaunchFault) : Reply :=
  match fault with
  | .plan fault => invalidWorkflow fault
  | fault => .failed (Console.failure fault.message)

/-- The reply with the results of a run. -/
def resultsOf (run : Run) : Reply :=
  { exit := if run.status = .succeeded then 0 else 1
    printed := Console.results (run.stages.map fun (id, r) => (id, r.state.name))
      (some run.status.name) }

/-- A number of seconds that is finite. -/
def secondsOf? (x : Option Decimal.Binary64) : Option Time :=
  x.bind fun x =>
    match x with
    | .finite .. => some x.toRat
    | _ => none

/-! ## New runs -/

/-- The values that assignments set; none when one of them has no key or no equals sign. -/
def assignedValues? (pairs : List String) : Option (List (String × String)) :=
  pairs.foldl (fun values pair => do
    match cut? '=' pair.toList with
    | some (k :: ks, v) => return putPair (String.ofList (k :: ks)) (String.ofList v) (← values)
    | _ => none) (some [])

/-- The ref of a run, and the values of its trigger with the commit that is checked out. None when
there is no ref. -/
def refAndValues? (ws : Workspace) (ref : Option String) (values : List (String × String)) :
    Option (String × List (String × String)) :=
  let given := (ref.filter (· ≠ "")).map Except.ok
  let ref := given.getD ws.git.currentRef.result
  match ref, ws.git.headCommit.result with
  | .ok ref, .ok sha =>
    some (ref, if (getPair? "sha" values).isSome then values else putPair "sha" sha values)
  | .ok ref, .error _ => if ref = "" then none else some (ref, values)
  | .error _, _ => none

/-- The files that have changed since a ref, if they are asked for. -/
def changedSince (ws : Workspace) (choice : RunChoice) : Except GitFault (List String) :=
  if choice.gitDiff then do
    let base ← (ws.git.mergeBase choice.compareRef).result
    (ws.git.changedFiles base).result
  else .ok []

def missingRef : Printed :=
  Console.error "Could not determine git ref"
    "No --ref specified and the current git ref is unavailable." []
    (some "Specify --ref explicitly:\n  relayci run --ref refs/heads/main")

/-- Starts a run of a workflow for a trigger on an open store. -/
def startRun (ws : Workspace) (c : Console) (path : String) (w : Workflow) (t : Trigger)
    (choice : RunChoice) (o : OpenStore) (now : Time) : Reply × Workspace :=
  match w.plan with
  | .error fault => (invalidWorkflow fault, ws)
  | .ok graph =>
    let started :=
      Console.runStarted ws.repository (fileName path) t.ref graph.instances.length
    let runId := s!"run{ws.runCount + 1}"
    let timeout := secondsOf? (choice.gateTimeout <|> ws.settings.gateTimeout)
    let workers := (choice.workers.filter (· ≠ 0)) <|> ws.settings.maxParallel
    let e := ws.execute c o workers timeout runId
      (.start w t (ws.versionSource t choice.versions)) now
    let counted := { e.workspace with runCount := ws.runCount + 1 }
    let before := started ++ e.printed
    match e.phase with
    | .over .notTriggered =>
      ({ printed := before ++ Console.info
          s!"Workflow {w.name} is not triggered by {t.event.name} on {t.ref}." }, e.workspace)
    | .over (.refused (.condition b)) =>
      ((Reply.failed (Console.failure b.message)).after before, e.workspace)
    | .over (.refused fault) => ((refusedLaunch fault).after before, counted)
    | .over (.crashed .interrupted) =>
      ((Reply.failed (Console.info "\nInterrupted by user") 130).after before, counted)
    | .over (.crashed crash) =>
      ((Reply.failed (Console.failure crash.message)).after before, counted)
    | _ =>
      let results := (e.run.map resultsOf).getD {}
      (results.after (before ++ Console.info s!"Run ID: {runId}"), counted)

def run (ws : Workspace) (c : Console) (choice : RunChoice) (db : Option String) (now : Time) :
    Reply × Workspace :=
  ws.withWorkflow choice.workflow fun path w =>
    let w := { w with failFast := choice.failFast.getD w.failFast }
    match assignedValues? choice.assignments with
    | none => (.misused, ws)
    | some values =>
      match ws.refAndValues? choice.ref values with
      | none => (.failed missingRef, ws)
      | some (ref, values) =>
        match ws.changedSince choice with
        | .error fault => (.failed (Console.failure fault.message), ws)
        | .ok files =>
          let note := if choice.gitDiff then
              c.debugNote s!"{files.length} changed file(s) since {choice.compareRef}"
            else {}
          let t : Trigger := {
            event := choice.event, ref, fork := choice.fork, actor := choice.actor, values
            changedFiles := files, workflow := w.name }
          let (reply, ws) := match ws.openStore (ws.address db) with
            | (.error fault, ws) => (Reply.failed (Console.failure fault.message), ws)
            | (.ok o, ws) => ws.startRun c path w t choice o now
          (reply.after note, ws)

/-! ## Other commands -/

/-- Shows the levels of a workflow. -/
def plan (ws : Workspace) (workflow : Option String) : Reply × Workspace :=
  ws.withWorkflow workflow fun _ w =>
    match w.plan with
    | .ok graph => ({ printed := Console.plan graph.levels }, ws)
    | .error fault => (if fault.isConfiguration then invalidWorkflow fault else .failed {}, ws)

/-- Takes up a recorded run. -/
def resume (ws : Workspace) (c : Console) (runId : String) (workflow : Option String)
    (versions : VersionChoice) (db : Option String) (now : Time) : Reply × Workspace :=
  ws.withWorkflow workflow fun _ w => ws.withStore db fun o ws =>
    match o.store.load runId with
    | .error _ =>
      (.failed (Console.error "Unknown run" s!"No run {runId} in {ws.address db}"), ws)
    | .ok old =>
      let source := ws.versionSource old.row.trigger versions
      let e := ws.execute c o ws.settings.maxParallel (secondsOf? ws.settings.gateTimeout) runId
        (.resume w source) now
      match e.phase with
      | .over (.refused fault) => ((refusedLaunch fault).after e.printed, e.workspace)
      | .over (.crashed .interrupted) =>
        ((Reply.failed { err := "\nAborted!\n" }).after e.printed, e.workspace)
      | .over (.crashed crash) =>
        ((Reply.failed (Console.failure crash.message)).after e.printed, e.workspace)
      | _ => (((e.run.map resultsOf).getD {}).after e.printed, e.workspace)

def listGates (ws : Workspace) (db : Option String) : Reply × Workspace :=
  ws.withStore db fun o ws =>
    ({ printed := Console.pendingGates (o.store.pendingGates.map Gate.id) }, ws)

def decideGate (ws : Workspace) (id : String) (status : GateStatus) (actor comment : String)
    (db : Option String) (now : Time) : Reply × Workspace :=
  ws.withStore db fun o ws =>
    match o.store.decideGate id status actor comment now with
    | .error _ => (.failed (Console.error "Unknown gate" s!"No gate {id}"), ws)
    | .ok (store, final) =>
      let line :=
        if final = status then s!"{id}: {final.name}" else s!"{id} was already {final.name}"
      ({ printed := Console.info line }, ws.keepStore o store)

def listRuns (ws : Workspace) (limit : Int) (db : Option String) : Reply × Workspace :=
  ws.withStore db fun o ws =>
    ({ printed := Console.runs ((o.store.listRuns limit).map fun (id, r) =>
        ⟨id, r.status.name, r.workflow, r.trigger.ref⟩) }, ws)

/-! ## All commands -/

/-- Carries out a command. -/
def carryOut (ws : Workspace) (i : Invocation) (now : Time) : Reply × Workspace :=
  let c : Console := { debug := i.debug }
  match i.command with
  | .run choice db => ws.run c choice db now
  | .plan workflow => ws.plan workflow
  | .resume runId workflow versions db => ws.resume c runId workflow versions db now
  | .listGates db => ws.listGates db
  | .decideGate id status actor comment db => ws.decideGate id status actor comment db now
  | .listRuns limit db => ws.listRuns limit db

/-- Carries out a command line. -/
def invoke (ws : Workspace) (args : List String) (now : Time) : Reply × Workspace :=
  match readInvocation args with
  | some i => ws.carryOut i now
  | none => (.misused, ws)

end Workspace

end GatedPipeline.Cli
