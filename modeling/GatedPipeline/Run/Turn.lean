-- The turns of a scheduler: it waits for an event, handles it, and moves the
-- run forward, until every instance has ended.
import GatedPipeline.Run.Advance
namespace GatedPipeline.Scheduler
open GatedPipeline.Text

/-! ## The end of a body -/

/-- Stages the declared outputs that a body reports. -/
def stageOutputs (i : Instance) (o : OutputStore) (reported : List (String × Value)) :
    OutputStore × Option OutputFault :=
  match reported with
  | [] => (o, none)
  | (key, v) :: rest =>
    if i.template.outputs.contains key then
      match o.write i.id key v with
      | .ok o => stageOutputs i o rest
      | .error fault => (o, some fault)
    else stageOutputs i o rest

/-- The message about declared outputs that a body did not write. -/
def missingOutputs (id : String) (missing : List String) : String :=
  s!"[{id}] succeeded without declared outputs: " ++ quotedList missing

/-- The text of an error, or another one when there is none. -/
def errorOr (error : Option String) (other : String) : String :=
  (error.filter (· ≠ "")).getD other

/-- A body has reported success. It has to have written every declared output, and each once. -/
def succeed (s : Scheduler) (i : Instance) (reported : List (String × Value)) : Scheduler :=
  let id := i.id
  let (outputs, fault) := stageOutputs i s.run.outputs reported
  let s := { s with run := { s.run with outputs } }
  match fault with
  | some (.duplicate producer key) =>
    let text := (OutputFault.duplicate producer key).message
    (s.move id .failed text).abort text
  | some fault => { s with crash := some (.output fault) }
  | none =>
    let staged := outputs.stagedOf id
    match i.template.outputs.filter fun k => (getPair? k staged).isNone with
    | [] =>
      let record := { s.run.record id with outputs := staged }
      let s := { s with run := { s.run with stages := putPair id record s.run.stages } }
      let s := s.move id .succeeded
      { s with run := { s.run with outputs := s.run.outputs.commit id } }
    | missing =>
      let text := missingOutputs id missing
      (s.move id .failed text).abort text

/-- Takes in the report of a body. The report of a cancelled instance comes too late. -/
def complete (s : Scheduler) (id : String) (report : BodyReport) : Scheduler :=
  let s := { s with inFlight := s.inFlight.filter (· ≠ id) }
  match s.graph.instance? id with
  | none => s
  | some i =>
    if s.state id ≠ .running then s
    else match report.status with
      | .cancelled => s.move id .cancelled (errorOr report.error "cancelled by executor")
      | .succeeded => s.succeed i report.outputs
      | _ =>
        let text := errorOr report.error "stage failed"
        ((s.move id .failed text).addError (s!"[{id}] " ++ text)).afterFailure i

/-! ## Gates that wait too long -/

/-- The gates that instances wait for, each once. -/
def awaitedGates (s : Scheduler) : List String := (s.awaiting.map (·.2)).eraseDups

/-- The moments at which the awaited gates will have waited too long. -/
def deadlines (s : Scheduler) : List Time :=
  match s.gateTimeout with
  | none => []
  | some span => s.awaitedGates.filterMap fun gid => (s.gates.get? gid).map (·.requestedAt + span)

/-- The earliest deadline. -/
def deadline? (s : Scheduler) : Option Time := earliest? s.deadlines

/-- How long the scheduler waits for an event before it looks at the gates again. -/
def wait? (s : Scheduler) : Option Time := s.deadline?.map fun d => later 0 (d - s.now)

/-- Rejects a gate if it has been pending too long. -/
def expireGate (span : Time) (s : Scheduler) (gid : String) : Scheduler :=
  match s.gates.get? gid with
  | none => { s with crash := some (.gate (.unknown gid)) }
  | some g =>
    if g.status = .pending && span ≤ s.now - g.requestedAt then
      match s.gates.decideAs gid .rejected timeoutActor "approval timed out" s.now with
      | .ok change => { s with gates := change.table }.deliver change.notices
      | .error fault => { s with crash := some (.gate fault) }
    else s

/-- Rejects the awaited gates that have been pending too long. -/
def expireGates (s : Scheduler) : Scheduler :=
  match s.gateTimeout with
  | none => s
  | some span => s.awaitedGates.foldl (expireGate span) s

/-! ## The end of a run -/

/-- The status of a run in which everything has ended. -/
def finalStatus (s : Scheduler) : RunStatus :=
  if s.fatal || s.run.stages.any (fun (_, r) => r.state == .failed) then .failed
  else if s.superseded then .cancelled
  else .succeeded

/-- Leaves nothing behind: pending gates of the run are rejected, bodies are told to stop and
no reader waits any more. -/
def cleanUp (s : Scheduler) : Scheduler :=
  let change := s.gates.closeRun s.run.id s.now
  let s := { s with gates := change.table }.deliver change.notices
  let bodies := s.bodies.map fun j => { j with cancelled := true }
  let s := { s with gates := s.gates.unsubscribe s.self, bodies }
  let s := s.emit (.shutdown (!(s.superseded || s.fatal)) (bodies.map fun j => (j.id, j.cancelled)))
  { s with run := { s.run with outputs := s.run.outputs.close }, bodies := [] }

/-- Ends the run. One that breaks off keeps its status, and its end is not written down. -/
def finish (s : Scheduler) : Scheduler :=
  let s := s.cleanUp
  if s.crash.isSome then { s with ended := true }
  else
    let status := s.finalStatus
    let s := { s with
      run := { s.run with status, finishedAt := some s.now }
      ended := true }
    s.write (.finish s.run.id status s.run.errors)

/-! ## Turns -/

/-- Whether nothing can happen any more although not everything has ended. -/
def stalled (s : Scheduler) : Bool :=
  s.inFlight.isEmpty && s.awaiting.isEmpty && s.cancelReason.isNone

/-- The message about a run that cannot go on. -/
def stalledMessage (s : Scheduler) : String :=
  "scheduler stalled with non-terminal stages: " ++
    quotedList ((s.run.stages.filter fun (_, r) => !r.state.isTerminal).map (·.1))

/-- Goes on until the next event is needed, or the run is over. -/
def proceed (s : Scheduler) : Scheduler :=
  let s := if s.cancelReason.isSome && !s.superseded then s.obeyCancel else s
  let s := s.advance
  if s.crash.isSome || s.run.finished then s.finish
  else if s.stalled then (s.abort s.stalledMessage).finish
  else s

/-- The first turn: listens to the gate table and starts what can be started. -/
def begin (s : Scheduler) : Scheduler :=
  let s := { s with gates := s.gates.subscribe s.self }
  if s.maxParallel ≤ 0 then { s with crash := some .noWorkers, ended := true } else s.proceed

/-- Takes in an event. -/
def handle (s : Scheduler) : Event → Scheduler
  | .done id report => s.complete id report
  | .gate _ => s
  | .wake => s

/-- Whether the scheduler has something to do: an event, or a gate that has waited too long. -/
def canTurn (s : Scheduler) : Bool :=
  !s.ended && (!s.queue.isEmpty || s.deadline?.any (· ≤ s.now))

/-- One turn: takes in the next event, or else sees to the gates that have waited too long, and
goes on. -/
def turn (s : Scheduler) : Scheduler :=
  if s.ended then s
  else match s.queue with
    | e :: rest => ({ s with queue := rest }.handle e).proceed
    | [] => if s.deadline?.any (· ≤ s.now) then s.expireGates.proceed else s

/-- Gives up waiting, and breaks the run off. -/
def interrupt (s : Scheduler) : Scheduler :=
  if s.ended then s else { s with crash := some .interrupted }.finish

/-! ## Bodies -/

/-- The body of an instance ends with the report that its script gives. Gives the report, or
nothing if the body is not in flight. -/
def endBody (s : Scheduler) (id : String) (script : BodyScript) :
    Option BodyReport × Scheduler :=
  match s.bodies.find? (·.id = id), s.graph.instance? id with
  | some job, some i =>
    let report := script.run i job.cancelled
    (some report, { s with bodies := s.bodies.filter (·.id ≠ id) }.push (.done id report))
  | _, _ => (none, s)

/-- The body that has been in flight for the longest time. -/
def oldestBody? (s : Scheduler) : Option String := s.bodies.head?.map (·.id)

end GatedPipeline.Scheduler
