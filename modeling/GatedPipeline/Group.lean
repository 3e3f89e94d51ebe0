-- Concurrency groups: at most one run of a group is active. A newer run
-- cancels the active one or waits for it, and of those that wait the older
-- ones give way.
import GatedPipeline.Pairs
namespace GatedPipeline

/-- A run that enters groups. Its key tells it from other runs with its identity. -/
structure Entrant (ι : Type) where
  run : String
  key : ι
  deriving DecidableEq, Repr, Inhabited

/-- A run that waits for its group to become free. -/
structure Waiter (ι : Type) where
  group : String
  entrant : Entrant ι
  /-- Whether it cancels the active run, and gives way to newer runs. -/
  cancelInProgress : Bool
  /-- Whether it has been told to look again. -/
  notified : Bool := false
  deriving Repr, Inhabited

structure Groups (ι : Type) where
  /-- The active run of each group that has one. -/
  active : List (String × Entrant ι) := []
  /-- The newest run of each group. -/
  latest : List (String × String) := []
  /-- Those that wait, in the order in which they came. -/
  waiting : List (Waiter ι) := []
  deriving Inhabited

/-- Why a run is cancelled when a newer one comes. -/
def Groups.supersededMessage (run : String) : String := s!"superseded by run {run}"

/-- What becomes of a run that wants to enter. -/
inductive Entry where
  | entered
  | queued
  /-- A newer run came first. -/
  | superseded
  deriving DecidableEq, Repr, Inhabited

namespace Groups

variable {ι : Type}

def activeRun (g : Groups ι) (group : String) : Option (Entrant ι) := getPair? group g.active

/-- A run enters a group. Gives what becomes of it, and the run that it cancels. -/
def enter (g : Groups ι) (group : String) (e : Entrant ι) (cancelInProgress : Bool) :
    Groups ι × Entry × Option (Entrant ι) :=
  let g := { g with latest := putPair group e.run g.latest }
  match g.activeRun group with
  | none => ({ g with active := putPair group e g.active }, .entered, none)
  | some current =>
    ({ g with waiting := g.waiting ++ [{ group, entrant := e, cancelInProgress }] }, .queued,
      if cancelInProgress then some current else none)

/-- A run leaves its group, if it is the active one. All that wait are told to look again. -/
def leave (g : Groups ι) (group run : String) : Groups ι :=
  { g with
    active := match g.activeRun group with
      | some current => if current.run = run then dropPair group g.active else g.active
      | none => g.active
    waiting := g.waiting.map fun w => { w with notified := true } }

/-- What becomes of a waiting run that looks again. -/
def outlook (g : Groups ι) (w : Waiter ι) : Entry :=
  if w.cancelInProgress && getPair? w.group g.latest != some w.entrant.run then .superseded
  else if (g.activeRun w.group).isSome then .queued
  else .entered

/-- A waiting run looks again. -/
def wake [DecidableEq ι] (g : Groups ι) (key : ι) : Groups ι × Entry :=
  match g.waiting.find? (·.entrant.key = key) with
  | none => (g, .queued)
  | some w =>
    let others := g.waiting.filter (·.entrant.key ≠ key)
    match g.outlook w with
    | .superseded => ({ g with waiting := others }, .superseded)
    | .entered =>
      ({ g with waiting := others, active := putPair w.group w.entrant g.active }, .entered)
    | .queued =>
      ({ g with waiting := g.waiting.map fun w =>
          if w.entrant.key = key then { w with notified := false } else w }, .queued)

/-- All that have been told to look again do so, in the order in which they came. Gives what
becomes of each. -/
def wakeAll [DecidableEq ι] (g : Groups ι) : Groups ι × List (Entrant ι × Entry) :=
  (g.waiting.filter (·.notified)).foldl (fun (g, seen) w =>
    let (g, entry) := g.wake w.entrant.key
    (g, seen ++ [(w.entrant, entry)])) (g, [])

/-- Whether a run waits and has been told to look again. -/
def isNotified [DecidableEq ι] (g : Groups ι) (key : ι) : Bool :=
  g.waiting.any fun w => w.entrant.key = key && w.notified

end Groups

end GatedPipeline
