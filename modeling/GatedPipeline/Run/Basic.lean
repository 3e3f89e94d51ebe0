-- A run and its scheduler: what the scheduler knows, and the moves from which
-- all that it does is made.
import GatedPipeline.Graph.Query
import GatedPipeline.Gate.Table
import GatedPipeline.Outputs
import GatedPipeline.Body
import GatedPipeline.Store.Basic
namespace GatedPipeline
open GatedPipeline.Text

/-! ## Runs -/

/-- Everything that one trigger produced. -/
structure Run where
  id : String
  trigger : Trigger
  workflow : String := ""
  graph : StageGraph
  /-- How far each instance has come. -/
  stages : List (String × StageRecord)
  outputs : OutputStore := {}
  status : RunStatus := .running
  errors : List String := []
  startedAt : Time
  finishedAt : Option Time := none
  deriving Inhabited

namespace Run

/-- A new run of a graph, with every instance pending. -/
def new (id : String) (trigger : Trigger) (workflow : String) (graph : StageGraph) (now : Time) :
    Run :=
  { id, trigger, workflow, graph, startedAt := now
    stages := graph.ids.map fun id => (id, {}) }

def record (r : Run) (id : String) : StageRecord := (getPair? id r.stages).getD {}

def state (r : Run) (id : String) : State := (r.record id).state

/-- Whether every instance has ended. -/
def finished (r : Run) : Bool := r.stages.all fun (_, s) => s.state.isTerminal

end Run

/-! ## What happens to a scheduler, and what it does -/

/-- What a scheduler is told. -/
inductive Event where
  /-- The body of an instance has ended. -/
  | done (id : String) (report : BodyReport)
  /-- A gate of the run has been decided. -/
  | gate (id : String)
  /-- Something else has changed. -/
  | wake
  deriving Inhabited

/-- What a scheduler does, as others see it. -/
inductive Effect where
  /-- Writes to the journal of the run. -/
  | journal (w : JournalWrite)
  /-- An instance has moved to another state. -/
  | moved (id : String) (record : StageRecord)
  /-- The body of an instance is started with these inputs. -/
  | dispatched (id : String) (inputs : List (String × Value))
  /-- No more bodies are started. Names those in flight, and whether each is told to stop. -/
  | shutdown (wait : Bool) (bodies : List (String × Bool))
  /-- A listener other than the scheduler is told of a decided gate. -/
  | notice (listener : Nat) (g : Gate)
  deriving Inhabited

/-- Why a run breaks off. -/
inductive Crash where
  | noWorkers
  | condition (b : Condition.Breakdown)
  | output (fault : OutputFault)
  | alreadyEnded (id : String) (was becoming : State)
  | gate (fault : GateFault)
  /-- Nothing will ever happen again, and the one who waits gives up. -/
  | interrupted
  deriving Inhabited

def Crash.message : Crash → String
  | .noWorkers => "max_workers must be greater than 0"
  | .condition b => b.message
  | .output fault => fault.message
  | .alreadyEnded id was becoming =>
    s!"[{id}] already terminal ({was.name}), cannot become {becoming.name}"
  | .gate fault => fault.message
  | .interrupted => ""

/-! ## The scheduler -/

/-- Why a run is cancelled when no reason is given. -/
def defaultCancelReason : String := "superseded"

/-- A body in flight. -/
structure Job where
  id : String
  inputs : List (String × Value)
  /-- Whether the body has been told to stop. -/
  cancelled : Bool := false
  deriving Inhabited

/-- A scheduler with its run. The gate table and the clock are those of the host. -/
structure Scheduler where
  run : Run
  gates : GateTable Nat := {}
  now : Time
  /-- The scheduler's own number among the listeners of the gate table. -/
  self : Nat
  maxParallel : Int := 4
  failFast : Bool := false
  /-- How long a gate may be pending. -/
  gateTimeout : Option Time := none
  engine : Option ReleaseEngine := none
  /-- What it was told and has not handled yet. -/
  queue : List Event := []
  /-- The instances whose bodies it waits for. -/
  inFlight : List String := []
  /-- The bodies that have been started and have not ended, in the order of their start. -/
  bodies : List Job := []
  /-- The ready instances that wait for a gate, with the gate. -/
  awaiting : List (String × String) := []
  /-- Why it was asked to cancel the run, if it was. -/
  cancelReason : Option String := none
  superseded : Bool := false
  fatal : Bool := false
  dispatched : Nat := 0
  crash : Option Crash := none
  ended : Bool := false
  /-- What it has done, in order. -/
  effects : List Effect := []
  deriving Inhabited

namespace Scheduler

def graph (s : Scheduler) : StageGraph := s.run.graph

def state (s : Scheduler) (id : String) : State := s.run.state id

def emit (s : Scheduler) (e : Effect) : Scheduler := { s with effects := s.effects ++ [e] }

def write (s : Scheduler) (w : JournalWrite) : Scheduler := s.emit (.journal w)

def addError (s : Scheduler) (text : String) : Scheduler :=
  { s with run := { s.run with errors := s.run.errors ++ [text] } }

/-! ## Being told of things -/

def push (s : Scheduler) (e : Event) : Scheduler := { s with queue := s.queue ++ [e] }

/-- Asks for the run to be cancelled. The last reason before the scheduler sees it counts. -/
def cancel (s : Scheduler) (reason : String) : Scheduler :=
  { s with cancelReason := some reason }.push .wake

/-- The scheduler hears of a decided gate, and writes it down if it is one of its run. -/
def hear (s : Scheduler) (g : Gate) : Scheduler :=
  if g.runId = s.run.id then (s.write (.gate g)).push (.gate g.id) else s

/-- Passes on what listeners were told: the scheduler hears its own part itself. -/
def deliver (s : Scheduler) (notices : List (Nat × Gate)) : Scheduler :=
  notices.foldl (fun s (k, g) => if k = s.self then s.hear g else s.emit (.notice k g)) s

/-! ## Moves -/

/-- The record of an instance that moves to a state now. -/
def movedRecord (old : StageRecord) (state : State) (error : Option String) (now : Time) :
    StageRecord :=
  { old with
    state
    error := (error.filter (· ≠ "")) <|> old.error
    startedAt := if state = .running then some now else old.startedAt
    finishedAt := if state.isTerminal then some now else old.finishedAt }

/-- Moves an instance to a state, writes that down and reports it. An instance that has ended
without success publishes nothing. -/
def move (s : Scheduler) (id : String) (state : State) (error : Option String := none) :
    Scheduler :=
  let old := s.run.record id
  if old.state.isTerminal then { s with crash := some (.alreadyEnded id old.state state) }
  else
    let new := movedRecord old state error s.now
    let outputs :=
      if state.isTerminal && state != .succeeded then s.run.outputs.discard id else s.run.outputs
    let s := { s with
      run := { s.run with stages := putPair id new s.run.stages, outputs }
      awaiting := if state.isTerminal then dropPair id s.awaiting else s.awaiting }
    (s.write (.state s.run.id id new)).emit (.moved id new)

/-- Tells the body of an instance to stop, if it is in flight. -/
def stopBody (s : Scheduler) (id : String) : Scheduler :=
  { s with bodies := s.bodies.map fun j => if j.id = id then { j with cancelled := true } else j }

/-- Cancels an instance that has not ended. -/
def cancelOne (s : Scheduler) (reason : String) (id : String) : Scheduler :=
  if (s.state id).isTerminal then s
  else
    let s := s.stopBody id
    { s with inFlight := s.inFlight.filter (· ≠ id) }.move id .cancelled reason

/-- Cancels every instance that has not ended. -/
def cancelAll (s : Scheduler) (reason : String) : Scheduler :=
  s.graph.order.foldl (fun s id => s.cancelOne reason id) s

/-- Stops the run because of an error after which nothing may go on. -/
def abort (s : Scheduler) (error : String) : Scheduler :=
  ({ s with fatal := true }.addError error).cancelAll s!"run aborted: {error}"

/-- Stops the run because it was asked to. -/
def obeyCancel (s : Scheduler) : Scheduler :=
  let reason := ((s.cancelReason.filter (· ≠ "")).getD defaultCancelReason)
  ({ s with superseded := true }.addError s!"cancelled: {reason}").cancelAll reason

/-- What follows the failure of an instance: with fail-fast on the run all others are cancelled,
with fail-fast on the stage its siblings. -/
def afterFailure (s : Scheduler) (i : Instance) : Scheduler :=
  if s.failFast then s.cancelAll s!"fail-fast after {i.id} failed"
  else if i.template.failFast then
    (s.graph.siblings i.id).foldl
      (fun s id => s.cancelOne s!"matrix fail-fast after {i.id} failed" id) s
  else s

end Scheduler

end GatedPipeline
