-- Moving a run forward as far as it goes without waiting: instances whose
-- dependencies have ended are skipped or made ready, decided gates are seen,
-- and ready instances are started while there is room.
import GatedPipeline.Run.Basic
namespace GatedPipeline.Scheduler
open GatedPipeline.Text

/-! ## The release decision -/

/-- Why there is no release decision. -/
inductive ReleaseFault where
  | noEngine
  | source (fault : SourceFault)
  | output (fault : OutputFault)

def ReleaseFault.message : ReleaseFault → String
  | .noEngine => "release stage present but no release engine configured"
  | .source fault => fault.message
  | .output fault => fault.message

/-- The release decision of the run. The first one is written down, and a tag to release becomes
an output of the run. -/
def decideRelease (s : Scheduler) : Except ReleaseFault ReleaseOutcome × Scheduler :=
  match s.engine with
  | none => (.error .noEngine, s)
  | some engine =>
    let (answer, engine') := engine.decide
    let s := { s with engine := some engine' }
    match answer with
    | .error fault => (.error (.source fault), s)
    | .ok outcome =>
      let s := if engine.outcome.isNone then s.write (.release s.run.id outcome) else s
      if outcome.decision = .release && (s.run.outputs.peek? runScope "release_tag").isNone then
        match s.run.outputs.write runScope "release_tag" (.text outcome.tag) with
        | .ok outputs => (.ok outcome, { s with run := { s.run with outputs } })
        | .error fault => (.error (.output fault), s)
      else (.ok outcome, s)

/-- The facts of the release decision, or why there are none. -/
def releaseFacts (s : Scheduler) : Except String (List (String × String)) × Scheduler :=
  if s.engine.isNone then (.error "no release engine configured", s)
  else match s.decideRelease with
    | (.ok outcome, s) => (.ok outcome.facts, s)
    | (.error fault, s) => (.error ("release decision unavailable: " ++ fault.message), s)

/-! ## Conditions and gates -/

/-- Whether the condition of an instance holds. The release decision is made if the condition
asks for it, and what comes after that in the condition may read the tag. -/
def conditionHolds (s : Scheduler) (i : Instance) :
    Except Condition.Breakdown Bool × Scheduler :=
  let (facts, decided) := s.releaseFacts
  let verdict (s : Scheduler) :=
    s.graph.conditionHolds i s.run.trigger (some s.run.outputs.peek?) (some facts)
  if (verdict s).askedRelease then ((verdict decided).holds, decided) else ((verdict s).holds, s)

/-- Asks for the gate of an instance, and makes the instance ready unless the gate is rejected.
With a pending gate it waits. -/
def requestGate (s : Scheduler) (i : Instance) : Scheduler :=
  match i.gateName.filter (· ≠ "") with
  | none => s.move i.id .ready
  | some name =>
    let (facts, s) := s.releaseFacts
    let change := s.gates.request name s.run.id (some s.run.trigger) facts.toOption s.now
    let s := { s with gates := change.table }.deliver change.notices
    let s := s.write (.gate change.answer)
    match change.answer.status with
    | .rejected => s.move i.id .skipped s!"gate {name} rejected"
    | .pending =>
      { s with awaiting := putPair i.id change.answer.id s.awaiting }.move i.id .ready
    | .approved => s.move i.id .ready

/-- Lets a release stage go on only if there is something to release. -/
def passRelease (s : Scheduler) (i : Instance) : Scheduler :=
  if i.template.release then
    match s.decideRelease with
    | (.error (.output (.duplicate producer key)), s) =>
      s.abort (OutputFault.duplicate producer key).message
    | (.error fault, s) =>
      let s := s.move i.id .failed ("release decision failed: " ++ fault.message)
      (s.addError (s!"[{i.id}] release decision failed: " ++ fault.message)).afterFailure i
    | (.ok outcome, s) =>
      if outcome.decision = .skip then
        s.move i.id .skipped s!"release skipped ({outcome.candidate} already published)"
      else s.requestGate i
  else s.requestGate i

/-- Moves an instance whose dependencies have all succeeded. -/
def unlock (s : Scheduler) (i : Instance) : Scheduler :=
  match s.conditionHolds i with
  | (.error b, s) => { s with crash := some (.condition b) }
  | (.ok false, s) => s.move i.id .skipped "condition not met"
  | (.ok true, s) => s.passRelease i

/-! ## One pass over the instances -/

/-- Moves an instance that is pending or blocked, if it can move. -/
def evaluate (s : Scheduler) (i : Instance) : Bool × Scheduler :=
  let id := i.id
  match s.graph.dependencyStatus id s.state with
  | .lost =>
    let lost := sortTexts ((s.graph.dependencies id).filter fun d => (s.state d).isLost)
    (true, s.move id .skipped ("dependency not successful: " ++ ", ".intercalate lost))
  | .waiting =>
    if s.state id = .pending then (true, s.move id .blocked) else (false, s)
  | .satisfied => (true, s.unlock i)

/-- Looks at the gate that a ready instance waits for. -/
def checkGate (s : Scheduler) (id gid : String) : Bool × Scheduler :=
  match s.gates.get? gid with
  | none => (true, { s with crash := some (.gate (.unknown gid)) })
  | some g =>
    match g.status with
    | .approved => (true, { s with awaiting := dropPair id s.awaiting })
    | .rejected =>
      (true, s.move id .skipped (s!"gate {g.name} rejected by " ++ g.actor.getD "None"))
    | .pending => (false, s)

/-- Whether the run may not go on. -/
def halted (s : Scheduler) : Bool := s.fatal || s.crash.isSome

/-- Looks at one instance. Says whether anything changed. -/
def visit (s : Scheduler) (id : String) : Bool × Scheduler :=
  match s.graph.instance? id with
  | none => (false, s)
  | some i =>
    match s.state id, getPair? id s.awaiting with
    | .pending, _ => s.evaluate i
    | .blocked, _ => s.evaluate i
    | .ready, some gid => s.checkGate id gid
    | _, _ => (false, s)

/-- Looks at instances one after the other, until the run may not go on. -/
def visitAll : List String → Bool → Scheduler → Bool × Scheduler
  | [], changed, s => (changed, s)
  | id :: ids, changed, s =>
    let (c, s) := s.visit id
    if s.halted then (changed || c, s) else visitAll ids (changed || c) s

/-! ## Starting bodies -/

/-- The inputs of an instance, read from the outputs of their producers. -/
def gatherInputs (s : Scheduler) (id : String) : Except OutputFault (List (String × Value)) :=
  (s.graph.inputsOf id).mapM fun (name, source) => do
    return (name, ← s.run.outputs.read source.producer source.key (some id))

/-- Starts the body of an instance. -/
def start (s : Scheduler) (id : String) (inputs : List (String × Value)) : Scheduler :=
  let s := s.move id .running
  let job : Job := { id, inputs }
  let s := { s with
    bodies := s.bodies ++ [job]
    inFlight := s.inFlight ++ [id]
    dispatched := s.dispatched + 1 }
  s.emit (.dispatched id inputs)

/-- Whether an instance is ready and waits for no gate. -/
def startable (s : Scheduler) (id : String) : Bool :=
  s.state id == .ready && (getPair? id s.awaiting).isNone

/-- Starts the instances that can be started, in order, while there is room. -/
def startAll : List String → Bool → Scheduler → Bool × Scheduler
  | [], changed, s => (changed, s)
  | id :: ids, changed, s =>
    if s.maxParallel ≤ s.inFlight.length || s.halted then (changed, s)
    else if s.startable id then
      match s.gatherInputs id with
      | .ok inputs => startAll ids true (s.start id inputs)
      | .error (.missing producer key) =>
        (true, s.abort (OutputFault.missing producer key).message)
      | .error fault => (true, { s with crash := some (.output fault) })
    else startAll ids changed s

/-! ## Passes -/

/-- One pass: looks at every instance, then starts what can be started. -/
def pass (s : Scheduler) : Bool × Scheduler :=
  let (changed, s) := visitAll s.graph.order false s
  if s.halted then (changed, s) else startAll s.graph.order changed s

/-- Passes until one changes nothing, at most `n` of them. -/
def passes : Nat → Scheduler → Scheduler
  | 0, s => s
  | n + 1, s =>
    if s.halted || s.superseded then s
    else
      let (changed, s) := s.pass
      if changed then passes n s else s

/-- Moves the run forward as far as it goes. Each pass but the last moves some instance one of
five steps, so there are never more passes than this. -/
def advance (s : Scheduler) : Scheduler := passes (5 * s.graph.order.length + 1) s

/-! ## Asking what is ready -/

/-- The instances that could start, each condition evaluated anew; and the scheduler after the
release decisions that the conditions asked for. -/
def readyAmong : List String → Scheduler → Except Condition.Breakdown (List String) × Scheduler
  | [], s => (.ok [], s)
  | id :: ids, s =>
    match s.graph.instance? id with
    | none => readyAmong ids s
    | some i =>
      match s.conditionHolds i with
      | (.error b, s) => (.error b, s)
      | (.ok holds, s) =>
        match readyAmong ids s with
        | (.ok rest, s) => (.ok (if holds then id :: rest else rest), s)
        | (.error b, s) => (.error b, s)

def ready (s : Scheduler) : Except Condition.Breakdown (List String) × Scheduler :=
  readyAmong (s.graph.unlocked s.state) s

end GatedPipeline.Scheduler
