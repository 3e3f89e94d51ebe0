-- The durable history of runs: a row for each run, stage instance, gate and
-- release decision. Each operation is one step that nothing comes between.
import GatedPipeline.Pairs
import GatedPipeline.Text.Sorted
import GatedPipeline.Stage.Record
import GatedPipeline.Gate.Basic
import GatedPipeline.Release.Basic
namespace GatedPipeline
open GatedPipeline.Text

/-! ## Rows -/

structure RunRow where
  workflow : String := ""
  group : String := ""
  trigger : Trigger
  status : RunStatus := .running
  errors : List String := []
  createdAt : Time
  finishedAt : Option Time := none
  /-- Why another host asked for the run to be cancelled. -/
  cancelRequest : Option String := none
  deriving Inhabited

/-- The rows in the order in which they came. -/
structure RunStore where
  runs : List (String × RunRow) := []
  /-- By run and instance. -/
  stages : List ((String × String) × StageRecord) := []
  gates : List (String × Gate) := []
  releases : List (String × ReleaseOutcome) := []
  deriving Inhabited

/-! ## The journal of a run -/

/-- What a run writes down as it goes. -/
inductive JournalWrite where
  | state (runId instanceId : String) (record : StageRecord)
  | gate (g : Gate)
  | release (runId : String) (outcome : ReleaseOutcome)
  | finish (runId : String) (status : RunStatus) (errors : List String)
  deriving Inhabited

namespace RunStore

/-- Writes down a gate, unless it was decided before. -/
def recordGate (s : RunStore) (g : Gate) : RunStore :=
  match getPair? g.id s.gates with
  | some old => if old.status = .pending then { s with gates := putPair g.id g s.gates } else s
  | none => { s with gates := putPair g.id g s.gates }

/-- Changes the row of a run, if there is one. -/
def changeRun (s : RunStore) (runId : String) (f : RunRow → RunRow) : RunStore :=
  match getPair? runId s.runs with
  | some row => { s with runs := putPair runId (f row) s.runs }
  | none => s

/-- Writes down the end of a run. -/
def finishRun (s : RunStore) (runId : String) (status : RunStatus) (errors : List String)
    (now : Time) : RunStore :=
  s.changeRun runId fun row => { row with status, errors, finishedAt := some now }

/-- Carries out one write of a run's journal. -/
def apply (s : RunStore) (now : Time) : JournalWrite → RunStore
  | .state runId id record => { s with stages := putPair (runId, id) record s.stages }
  | .gate g => s.recordGate g
  | .release runId outcome => { s with releases := putPair runId outcome s.releases }
  | .finish runId status errors => s.finishRun runId status errors now

/-! ## Runs -/

/-- Why the store refuses an operation. -/
inductive Fault where
  | duplicateRun (runId : String)
  | unknown (key : String)
  deriving DecidableEq, Repr

def Fault.message : Fault → String
  | .duplicateRun runId => runId
  | .unknown key => quoted key

/-- Adds a run. Its identity has to be new. -/
def createRun (s : RunStore) (runId : String) (trigger : Trigger) (workflow group : String)
    (now : Time) : Except Fault RunStore :=
  if (getPair? runId s.runs).isSome then .error (.duplicateRun runId)
  else .ok { s with runs := s.runs ++ [(runId, { workflow, group, trigger, createdAt := now })] }

/-- A gate that the end of its run has closed, pending again. -/
def reopenedGate (g : Gate) (now : Time) : Gate :=
  { g with status := .pending, actor := none, comment := "", requestedAt := now, decidedAt := none }

/-- Marks a run as running again, and reopens the gates that its end has closed. -/
def reopenRun (s : RunStore) (runId : String) (now : Time) : RunStore :=
  let s := s.changeRun runId fun row =>
    { row with status := .running, finishedAt := none, cancelRequest := none }
  { s with gates := s.gates.map fun (id, g) =>
      (id, if g.runId = runId && g.actor = some runFinishedActor then reopenedGate g now else g) }

/-- Whether a run is superseded by a newer one of the group. -/
def supersededBy (group runId : String) (id : String) (row : RunRow) : Bool :=
  row.group = group && id != runId && row.status = .running && row.cancelRequest.isNone

/-- Asks every other running run of the group to stop. Gives their identities. -/
def supersede (s : RunStore) (group runId reason : String) : RunStore × List String :=
  ({ s with runs := s.runs.map fun (id, row) =>
      (id, if supersededBy group runId id row then { row with cancelRequest := some reason }
        else row) },
    (s.runs.filter fun (id, row) => supersededBy group runId id row).map (·.1))

/-- Why a run was asked to stop, if it was. -/
def cancelRequested (s : RunStore) (runId : String) : Option String :=
  (getPair? runId s.runs).bind (·.cancelRequest)

/-! ## Gates -/

/-- Decides a gate that is pending. One that is decided keeps its first decision; the answer is
the status after the call. -/
def decideGate (s : RunStore) (id : String) (status : GateStatus) (actor comment : String)
    (now : Time) : Except Fault (RunStore × GateStatus) :=
  match getPair? id s.gates with
  | none => .error (.unknown id)
  | some g =>
    if g.status = .pending then
      .ok ({ s with gates := putPair id (g.decided status actor comment now) s.gates }, status)
    else .ok (s, g.status)

/-- The gates that wait for a decision, those that were asked for first in front. -/
def pendingGates (s : RunStore) : List Gate :=
  ((s.gates.map (·.2)).filter (·.status = .pending)).mergeSort
    fun a b => decide (a.requestedAt ≤ b.requestedAt)

/-- The gates of a run that are decided. -/
def decidedGates (s : RunStore) (runId : String) : List Gate :=
  (s.gates.map (·.2)).filter fun g => g.runId = runId && g.status ≠ .pending

/-! ## Reading back -/

/-- A run as it is recorded. -/
structure PersistedRun where
  runId : String
  row : RunRow
  stages : List (String × StageRecord)
  gates : List Gate
  release : Option ReleaseOutcome

def load (s : RunStore) (runId : String) : Except Fault PersistedRun :=
  match getPair? runId s.runs with
  | none => .error (.unknown runId)
  | some row => .ok {
      runId, row
      stages := (s.stages.filter fun p => p.1.1 = runId).map fun ((_, id), record) => (id, record)
      gates := (s.gates.map (·.2)).filter (·.runId = runId)
      release := getPair? runId s.releases }

/-- The runs, the newest first; no more than `limit` of them, unless that is negative. -/
def listRuns (s : RunStore) (limit : Int := 20) : List (String × RunRow) :=
  let sorted := s.runs.mergeSort fun a b => decide (b.2.createdAt ≤ a.2.createdAt)
  if limit < 0 then sorted else sorted.take limit.toNat

end RunStore

end GatedPipeline
