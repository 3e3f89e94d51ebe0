-- A host of several runs. Only one thing happens at a time: each run
-- goes on until it waits for an event or for its group, or is over.
import GatedPipeline.Orchestrator
namespace GatedPipeline

/-! ## Sessions -/

/-- A run of a scheduler alone, without groups and store. -/
structure BareLaunch where
  stages : List StageTemplate
  trigger : Trigger
  source : Option VersionSource := none
  failFast : Bool := false
  gateTimeout : Option Time := none
  maxParallel : Int := 4
  /-- States that instances have from the start, by their names. -/
  preset : List (String × String) := []
  /-- Why the run is cancelled before it starts, if it is. -/
  cancelReason : Option String := none
  /-- Whether what it writes down is of interest. -/
  journaled : Bool := false
  deriving Inhabited

inductive Launch where
  | start (w : Workflow) (trigger : Trigger) (source : Option VersionSource)
  | resume (w : Workflow) (source : Option VersionSource)
  | bare (l : BareLaunch)
  /-- What is wanted cannot be launched. -/
  | faulty (fault : LaunchFault)
  deriving Inhabited

/-- How a run has ended. -/
inductive Ending where
  | finished
  | notTriggered
  | refused (fault : LaunchFault)
  | crashed (c : Crash)
  deriving Inhabited

inductive Phase where
  | fresh | queued | running
  | over (e : Ending)
  deriving Inhabited

/-- One execution of a run. -/
structure Session where
  runId : String
  launch : Launch
  phase : Phase := .fresh
  scheduler : Option Scheduler := none
  group : String := ""
  /-- Whether it has entered its group. -/
  entered : Bool := false
  /-- Whether it follows the store. -/
  synced : Bool := false
  /-- Whether it has passed on a request to cancel from the store. -/
  cancelSeen : Bool := false
  deriving Inhabited

def Session.isOver (s : Session) : Bool :=
  match s.phase with
  | .over _ => true
  | _ => false

/-- Whether a new run of the session cancels the active one. -/
def Launch.cancelInProgress : Launch → Bool
  | .start w _ _ => w.cancelInProgress
  | .resume w _ => w.cancelInProgress
  | .bare _ | .faulty _ => false

/-! ## The host -/

/-- A host. Its sessions are numbered from 1 in the order of their start; as listeners of the
gate table they go by their numbers, and number 0 is the host itself. -/
structure Host where
  now : Time := 1000
  orchestrator : Orchestrator := { gates := { listeners := [0] } }
  sessions : List Session := []
  /-- The bodies in flight, each with the key of its session, in the order of their start. -/
  flight : List (Nat × String) := []
  /-- What the runs did since the last look, in order. -/
  log : List (Nat × Effect) := []
  /-- The gates decided since the last look. -/
  decided : List Gate := []
  deriving Inhabited

namespace Host

def session? (p : Host) (key : Nat) : Option Session :=
  if key = 0 then none else p.sessions[key - 1]?

def putSession (p : Host) (key : Nat) (s : Session) : Host :=
  { p with sessions := p.sessions.set (key - 1) s }

/-- The keys of all sessions. -/
def keys (p : Host) : List Nat := (List.range p.sessions.length).map (· + 1)

/-- The newest session of a run. -/
def newest? (p : Host) (runId : String) (ok : Session → Bool := fun _ => true) : Option Nat :=
  p.keys.reverse.find? fun k => (p.session? k).any fun s => s.runId = runId && ok s

/-- The newest session of a run that has got a scheduler. -/
def scheduled? (p : Host) (runId : String) : Option Nat :=
  p.newest? runId (·.scheduler.isSome)

/-! ## Carrying out what schedulers do -/

/-- A journal write of a session goes to the store, unless the session has no part in it. -/
def journal (p : Host) (key : Nat) (w : JournalWrite) : Host :=
  match (p.session? key).map Session.launch with
  | some (.bare _) | some (.faulty _) => p
  | _ => { p with orchestrator := { p.orchestrator with
      store := p.orchestrator.store.map fun s => s.apply p.now w } }

/-- A listener is told of a decided gate. -/
def tell (p : Host) (key : Nat) (g : Gate) : Host :=
  if key = 0 then { p with decided := p.decided ++ [g] }
  else match p.session? key with
    | none => p
    | some session =>
      match session.scheduler with
      | none => p
      | some s =>
        let heard := { s with effects := [] }.hear g
        let p := p.putSession key { session with scheduler := some { heard with effects := [] } }
        heard.effects.foldl (fun p e =>
          match e with
          | .journal w => { p.journal key w with log := p.log ++ [(key, e)] }
          | _ => p) p

def tellAll (p : Host) (notices : List (Nat × Gate)) : Host :=
  notices.foldl (fun p (key, g) => p.tell key g) p

/-- The bodies in flight after a session has done something. -/
def flightAfter (flight : List (Nat × String)) (key : Nat) : Effect → List (Nat × String)
  | .dispatched id _ => flight ++ [(key, id)]
  | .shutdown .. => flight.filter (·.1 ≠ key)
  | _ => flight

/-- Takes over what a scheduler has become, and carries out what it did. -/
def absorb (p : Host) (key : Nat) (s : Scheduler) : Host :=
  match p.session? key with
  | none => p
  | some session =>
    let p := p.putSession key { session with
      scheduler := some { s with effects := [], gates := {} } }
    let p := { p with orchestrator := { p.orchestrator with gates := s.gates } }
    s.effects.foldl (fun p e =>
      let p := { p with flight := flightAfter p.flight key e }
      match e with
      | .notice k g => p.tell k g
      | .journal w => { p.journal key w with log := p.log ++ [(key, e)] }
      | _ => { p with log := p.log ++ [(key, e)] }) p

/-- A scheduler at work: it sees the gate table and the clock of the host. -/
def lend (p : Host) (s : Scheduler) : Scheduler :=
  { s with gates := p.orchestrator.gates, now := p.now }

/-- Lets the scheduler of a session do something. -/
def withScheduler {α : Type} (p : Host) (key : Nat) (f : Scheduler → α × Scheduler) :
    Option α × Host :=
  match (p.session? key).bind (·.scheduler) with
  | none => (none, p)
  | some s =>
    let (a, s) := f (p.lend s)
    (some a, p.absorb key s)

/-! ## Going on -/

def setPhase (p : Host) (key : Nat) (phase : Phase) : Host :=
  match p.session? key with
  | some session => p.putSession key { session with phase }
  | none => p

/-- Closes the books on a session whose scheduler has ended. -/
def settleEnd (p : Host) (key : Nat) : Host :=
  match p.session? key with
  | none => p
  | some session =>
    match session.scheduler with
    | none => p
    | some s =>
      if s.ended then
        let ending := match s.crash with
          | some c => Ending.crashed c
          | none => .finished
        let p := p.putSession key { session with phase := .over ending }
        match session.launch with
        | .bare _ | .faulty _ => p
        | _ => { p with orchestrator :=
            p.orchestrator.dismiss session.runId session.group session.entered }
      else p

/-- The scheduler of a session takes its first turn. -/
def beginRun (p : Host) (key : Nat) : Host :=
  let (_, p) := (p.setPhase key .running).withScheduler key fun s => ((), s.begin)
  p.settleEnd key

/-- What follows when a session has entered its group, or has been superseded before. -/
def enterRun (p : Host) (key : Nat) (entered : Bool) : Host :=
  match p.session? key with
  | none => p
  | some session =>
    let synced := entered && p.orchestrator.store.isSome
    let p := p.putSession key { session with entered, synced }
    let (_, p) := p.withScheduler key fun s =>
      ((), if entered then s else s.cancel "superseded before start")
    p.beginRun key

/-- Cancels the run of a session. -/
def cancelSession (p : Host) (key : Nat) (reason : String) : Host :=
  (p.withScheduler key fun s => ((), s.cancel reason)).2

/-- A session whose run is prepared enters its group. -/
def enrollSession (p : Host) (key : Nat) (s : Scheduler) (group : String) : Host :=
  match p.session? key with
  | none => p
  | some session =>
    let p := p.putSession key { session with scheduler := some s, group }
    let (o, entry, cancelled) :=
      p.orchestrator.enroll session.runId group session.launch.cancelInProgress key
    let p := { p with orchestrator := o }
    let p := match cancelled with
      | some e => p.cancelSession e.key (Groups.supersededMessage session.runId)
      | none => p
    match entry with
    | .entered => p.enterRun key true
    | .superseded => p.enterRun key false
    | .queued => p.setPhase key .queued

/-- The records of instances, some of them put into a state by its name. -/
def presetStages (stages : List (String × StageRecord)) :
    List (String × String) → Except LaunchFault (List (String × StageRecord))
  | [] => .ok stages
  | (id, name) :: rest =>
    match State.ofName? name, getPair? id stages with
    | none, _ => .error (.unknownState name)
    | some _, none => .error (.unknownInstance id)
    | some state, some r => presetStages (putPair id { r with state } stages) rest

/-- The scheduler of a bare run. -/
def bareScheduler (runId : String) (l : BareLaunch) (key : Nat) (now : Time) :
    Except LaunchFault Scheduler := do
  let graph ← (StageGraph.ofTemplates l.stages).mapError .plan
  let run := Run.new runId l.trigger "" graph now
  let stages ← presetStages run.stages l.preset
  return {
    run := { run with stages }, now
    self := key
    maxParallel := l.maxParallel
    failFast := l.failFast
    gateTimeout := l.gateTimeout
    engine := l.source.map fun source => { source : ReleaseEngine } }

/-- The launch of a session, when its turn comes for the first time. -/
def launchSession (p : Host) (key : Nat) (session : Session) : Host :=
  match session.launch with
  | .faulty fault => p.setPhase key (.over (.refused fault))
  | .bare l =>
    match bareScheduler session.runId l key p.now with
    | .error fault => p.setPhase key (.over (.refused fault))
    | .ok s =>
      let s := match l.cancelReason with
        | some reason => s.cancel reason
        | none => s
      (p.putSession key { session with scheduler := some s }).beginRun key
  | launch =>
    let (o, prepared) := match launch with
      | .start w t source => p.orchestrator.prepareStart w t source session.runId key p.now
      | .resume w source => p.orchestrator.prepareResume w source session.runId key p.now
      | _ => (p.orchestrator, .notTriggered)
    let p := { p with orchestrator := o }
    match prepared with
    | .notTriggered => p.setPhase key (.over .notTriggered)
    | .failed fault => p.setPhase key (.over (.refused fault))
    | .ready s group => p.enrollSession key s group

/-- A waiting session looks at its group again. -/
def wakeSession (p : Host) (key : Nat) : Host :=
  let (groups, entry) := p.orchestrator.groups.wake key
  let p := { p with orchestrator := { p.orchestrator with groups } }
  match entry with
  | .entered => p.enterRun key true
  | .superseded => p.enterRun key false
  | .queued => p

/-- Whether a session can go on. -/
def canGoOn (p : Host) (key : Nat) : Bool :=
  match p.session? key with
  | none => false
  | some session =>
    match session.phase with
    | .fresh => true
    | .queued => p.orchestrator.groups.isNotified key
    | .running => session.scheduler.any fun s => (p.lend s).canTurn
    | .over _ => false

/-- Lets a session go on a step. -/
def goOn (p : Host) (key : Nat) : Host :=
  match p.session? key with
  | none => p
  | some session =>
    match session.phase with
    | .fresh => p.launchSession key session
    | .queued => p.wakeSession key
    | .running => (p.withScheduler key fun s => ((), s.turn)).2.settleEnd key
    | .over _ => p

/-- Lets a session go on until it waits, for at most `n` steps. -/
def goOnWhile (key : Nat) : Nat → Host → Host
  | 0, p => p
  | n + 1, p => if p.canGoOn key then goOnWhile key n (p.goOn key) else p

/-- Lets the first session that can go on do so, again and again, at most `n` times. -/
def settleWithin : Nat → Host → Host
  | 0, p => p
  | n + 1, p =>
    match p.keys.find? p.canGoOn with
    | some key => settleWithin n (goOnWhile key 100 p)
    | none => p

/-- Lets all sessions go on until none can. -/
def settle (p : Host) : Host :=
  settleWithin (4 * (p.sessions.length + 4) * (p.sessions.length + 4)) p

/-! ## What is done to a host from outside -/

/-- Launches a run. -/
def launch (p : Host) (runId : String) (l : Launch) : Host :=
  { p with sessions := p.sessions ++ [{ runId, launch := l }] }

/-- Why an operation on a run is refused. -/
inductive Fault where
  | unknownRun (runId : String)
  | notInFlight
  | output (fault : OutputFault)
  | gate (fault : GateFault)
  | condition (b : Condition.Breakdown)

def Fault.message : Fault → String
  | .unknownRun runId => runId
  | .notInFlight => "not in flight"
  | .output fault => fault.message
  | .gate fault => fault.message
  | .condition b => b.message

/-- The body in flight for the longest time of those of a run, whatever session it belongs to, or
of those of one instance of the run. -/
def bodyInFlight? (p : Host) (runId : String) (id : Option String) : Option (Nat × String) :=
  p.flight.find? fun (key, i) =>
    (p.session? key).any (·.runId = runId) && id.all (· == i)

/-- Ends a body of a run, by default the one that has been in flight for the longest time. -/
def completeBody (p : Host) (runId : String) (id : Option String) (script : BodyScript) :
    Except Fault BodyReport × Host :=
  match p.bodyInFlight? runId id with
  | none => (.error .notInFlight, p)
  | some (key, id) =>
    let p := { p with flight := p.flight.erase (key, id) }
    let (report, p) := p.withScheduler key fun s => s.endBody id script
    match report.join with
    | some report => (.ok report, p)
    | none => (.error .notInFlight, p)

/-- Ends the bodies of a run one after the other until none is in flight, at most `n` of them.
Gives their number. -/
def drainWithin (runId : String) : Nat → Host → Nat × Host
  | 0, p => (0, p)
  | n + 1, p =>
    match p.completeBody runId none .default with
    | (.ok _, p) =>
      let (count, p) := drainWithin runId n p.settle
      (count + 1, p)
    | (.error _, p) => (0, p)

/-- How many bodies there can be: one for each instance of each session. -/
def bodyBound (p : Host) : Nat :=
  p.sessions.foldl (fun n session =>
    n + (session.scheduler.map (·.run.stages.length)).getD 0) 0

/-- Ends the bodies of a run until none is in flight. -/
def drain (p : Host) (runId : String) : Nat × Host :=
  let p := p.settle
  drainWithin runId (p.bodyBound + 1) p

/-- Decides a gate. -/
def decide (p : Host) (gate : String) (d : Decision) (actor comment : String) :
    Except Fault GateStatus × Host :=
  match p.orchestrator.gates.decide gate d actor comment p.now with
  | .error fault => (.error (.gate fault), p)
  | .ok change =>
    let p := { p with orchestrator := { p.orchestrator with gates := change.table } }
    (.ok change.answer, p.tellAll change.notices)

/-- Cancels a run. -/
def cancel (p : Host) (runId reason : String) : Except Fault Unit × Host :=
  match p.scheduled? runId with
  | none => (.error (.unknownRun runId), p)
  | some key => (.ok (), p.cancelSession key reason)

/-- Passes the decisions on gates that the store has to the gate table. -/
def followGates (p : Host) (runId : String) : List Gate → Host
  | [] => p
  | g :: gs =>
    let waiting := (p.orchestrator.gates.pending (some runId)).any (·.id = g.id)
    let p := if waiting then
        (p.decide g.id (.status g.status) (((g.actor.filter (· ≠ "")).getD "store")) g.comment).2
      else p
    followGates p runId gs

/-- A session looks at the store once: for a request to cancel it, and for decided gates. -/
def syncSession (p : Host) (key : Nat) (session : Session) (store : RunStore) : Host :=
  let runId := session.runId
  let p := match (store.cancelRequested runId).filter (· ≠ "") with
    | some reason =>
      if session.cancelSeen then p
      else (p.putSession key { session with cancelSeen := true }).cancelSession key reason
    | none => p
  followGates p runId (store.decidedGates runId)

/-- A run looks at the store once. Says whether the run still does so. -/
def sync (p : Host) (runId : String) : Except Fault Bool × Host :=
  match p.newest? runId (·.synced), p.orchestrator.store with
  | some key, some store =>
    match p.session? key with
    | none => (.error (.unknownRun runId), p)
    | some session =>
      if session.isOver then (.ok false, p) else (.ok true, p.syncSession key session store)
  | _, _ => (.error (.unknownRun runId), p)

/-- Writes an output of a run from outside. -/
def putOutput (p : Host) (runId id key : String) (v : Value) : Except Fault Unit × Host :=
  match p.scheduled? runId with
  | none => (.error (.unknownRun runId), p)
  | some k =>
    let (answer, p) := p.withScheduler k fun s =>
      match s.run.outputs.write id key v with
      | .ok outputs => (Except.ok (), { s with run := { s.run with outputs } })
      | .error fault => (.error (Fault.output fault), s)
    (answer.getD (.error (.unknownRun runId)), p)

/-- Reads an output of a run from outside. -/
def readOutput (p : Host) (runId id key : String) : Except Fault Value :=
  match ((p.scheduled? runId).bind p.session?).bind (·.scheduler) with
  | none => .error (.unknownRun runId)
  | some s => (s.run.outputs.read id key none).mapError .output

/-- The instances of a run that could start. -/
def ready (p : Host) (runId : String) : Except Fault (List String) × Host :=
  match p.scheduled? runId with
  | none => (.error (.unknownRun runId), p)
  | some key =>
    let (answer, p) := p.withScheduler key Scheduler.ready
    match answer with
    | some (.ok ids) => (.ok ids, p)
    | some (.error b) => (.error (.condition b), p)
    | none => (.error (.unknownRun runId), p)

/-! ## A run on its own -/

/-- The run of a session is broken off, since the one who waits for it gives up. -/
def interruptSession (p : Host) (key : Nat) : Host :=
  (p.withScheduler key fun s => ((), s.interrupt)).2.settleEnd key

/-- One step of a session while nobody interferes. When its scheduler waits, the oldest body in
flight comes to its end as its script says; without one the clock moves on to the moment at which
a gate will have waited too long, and without such a moment the wait is broken off. -/
def stepAlone (scripts : List (String × BodyScript)) (key : Nat) (p : Host) : Host :=
  match (p.session? key).bind fun session => session.scheduler.map fun s => (session, s) with
  | none => p.goOn key
  | some (session, s) =>
    if !s.queue.isEmpty then p.goOn key
    else match s.oldestBody? with
      | some id =>
        (p.completeBody session.runId (some id) ((getPair? id scripts).getD .default)).2
      | none =>
        match (p.lend s).deadline? with
        | some moment => { p with now := later p.now moment }.goOn key
        | none => p.interruptSession key

/-- Runs a session to its end, in at most `n` steps. -/
def runAloneWithin (scripts : List (String × BodyScript)) (key : Nat) : Nat → Host → Host
  | 0, p => p
  | n + 1, p =>
    if (p.session? key).all (·.isOver) then p
    else runAloneWithin scripts key n (p.stepAlone scripts key)

/-- Launches a run, and runs it to its end. Each instance has at most one body and one gate, each
of them with one event. -/
def runAlone (p : Host) (runId : String) (l : Launch) (scripts : List (String × BodyScript)) :
    Host :=
  let p := p.launch runId l
  let key := p.sessions.length
  let p := p.goOn key
  let stages := ((p.session? key).bind (·.scheduler)).map (·.run.stages.length)
  runAloneWithin scripts key (8 * stages.getD 0 + 8) p

/-- A time as the clock has it: with the precision of a double. -/
def onClock (t : Time) : Time := (Decimal.Binary64.ofRatio (t.num < 0) t.num.natAbs t.den).toRat

/-- Lets time pass. -/
def advance (p : Host) (span : Time) : Host := { p with now := onClock (p.now + onClock span) }

/-- Forgets what was done since the last look. -/
def forget (p : Host) : Host := { p with log := [], decided := [] }

/-- The runs in the order of their first session. -/
def runIds (p : Host) : List String := (p.sessions.map (·.runId)).eraseDups

/-- The runs that are not over. -/
def leftOver (p : Host) : List String :=
  p.runIds.filter fun id => ((p.newest? id).bind p.session?).any (!·.isOver)

/-- Cancels the runs that are not over. -/
def cancelLeft (p : Host) : Host :=
  (p.leftOver.foldl (fun p id => (p.cancel id "script over").2) p).settle

end Host

end GatedPipeline
