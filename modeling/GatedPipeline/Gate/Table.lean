-- The table of all gates of a host. Each decision is told, with the gate
-- as decided, to every listener that is subscribed at that moment.
import GatedPipeline.Pairs
import GatedPipeline.Text.Glob
import GatedPipeline.Gate.Policy
namespace GatedPipeline
open GatedPipeline.Text

/-- Gates by identity in the order in which they came, the policies with the patterns of the
gates that they are for, and the listeners. -/
structure GateTable (ι : Type) where
  gates : List (String × Gate) := []
  policies : List (String × Policy) := []
  listeners : List ι := []
  deriving Inhabited

/-- What an operation on the table gives: the table after it, its answer, and what each
listener was told, in order. -/
structure GateChange (ι α : Type) where
  table : GateTable ι
  answer : α
  notices : List (ι × Gate) := []

namespace GateTable

variable {ι : Type}

/-! ## Policies and listeners -/

def attach (t : GateTable ι) (pattern : String) (p : Policy) : GateTable ι :=
  { t with policies := t.policies ++ [(pattern, p)] }

/-- The first policy whose pattern fits the name of a gate. -/
def policyFor? (t : GateTable ι) (name : String) : Option Policy :=
  (t.policies.find? fun (pattern, _) => globMatches pattern name).map (·.2)

def subscribe (t : GateTable ι) (listener : ι) : GateTable ι :=
  { t with listeners := t.listeners ++ [listener] }

def unsubscribe [DecidableEq ι] (t : GateTable ι) (listener : ι) : GateTable ι :=
  { t with listeners := t.listeners.erase listener }

/-- What all listeners are told of a decided gate. -/
def notices (t : GateTable ι) (g : Gate) : List (ι × Gate) := t.listeners.map (·, g)

/-! ## Queries -/

def get? (t : GateTable ι) (id : String) : Option Gate := getPair? id t.gates

def all (t : GateTable ι) : List Gate := t.gates.map (·.2)

/-- The gates that wait for a decision, of one run or of all. -/
def pending (t : GateTable ι) (run : Option String := none) : List Gate :=
  t.all.filter fun g => g.status = .pending && run.all (· == g.runId)

/-- The statuses of a run's gates by name. -/
def statuses (t : GateTable ι) (runId : String) : List (String × GateStatus) :=
  ofPairs ((t.all.filter (·.runId == runId)).map fun g => (g.name, g.status))

/-! ## Requests and decisions -/

/-- Puts a gate into the table, in the place of one with its identity if there is one. -/
def put (t : GateTable ι) (g : Gate) : GateTable ι := { t with gates := putPair g.id g t.gates }

/-- What a policy gets to see when a gate is requested, the new gate among the others. -/
def policyRequest (t : GateTable ι) (name runId : String) (trigger : Trigger)
    (release : Option (List (String × String))) : Policy.Request :=
  { gate := name, runId, trigger, gates := t.statuses runId, facts := release }

/-- Asks for a gate. One that is in the table is given as it is. A new one is pending, unless
the policy for its name approves it at once. -/
def request (t : GateTable ι) (name runId : String) (trigger : Option Trigger)
    (release : Option (List (String × String))) (now : Time) : GateChange ι Gate :=
  match t.get? (gateId runId name) with
  | some g => { table := t, answer := g }
  | none =>
    let g : Gate := { name, runId, requestedAt := now }
    let table := t.put g
    match trigger, t.policyFor? name with
    | some trigger, some policy =>
      if policy.approves (table.policyRequest name runId trigger release) then
        let g := g.decided .approved ("policy:" ++ policy.name) "auto approve" now
        { table := table.put g, answer := g, notices := table.notices g }
      else { table, answer := g }
    | _, _ => { table, answer := g }

/-- Decides a gate. Only the first decision counts; the answer is the status after the call. -/
def decideAs (t : GateTable ι) (id : String) (status : GateStatus) (actor comment : String)
    (now : Time) : Except GateFault (GateChange ι GateStatus) :=
  match t.get? id with
  | none => .error (.unknown id)
  | some g =>
    if g.status = .pending then
      let g := g.decided status actor comment now
      .ok { table := { t with gates := putPair id g t.gates }, answer := status
            notices := t.notices g }
    else .ok { table := t, answer := g.status }

/-- Decides a gate as someone asks for it. -/
def decide (t : GateTable ι) (id : String) (d : Decision) (actor comment : String) (now : Time) :
    Except GateFault (GateChange ι GateStatus) :=
  match d.outcome? with
  | none => .error (.invalidDecision d)
  | some status => t.decideAs id status actor comment now

/-- Puts back a gate as it was recorded. -/
def restore (t : GateTable ι) (g : Gate) : GateTable ι := t.put g

/-- Puts back a gate as a new pending one. -/
def reopen (t : GateTable ι) (g : Gate) (now : Time) : GateTable ι :=
  t.put { name := g.name, runId := g.runId, requestedAt := now }

/-- Rejects the gates with these identities, those of them that are pending. -/
def closeAll (t : GateTable ι) (now : Time) : List String → GateChange ι Unit
  | [] => { table := t, answer := () }
  | id :: ids =>
    match t.decideAs id .rejected runFinishedActor "run finished" now with
    | .error _ => closeAll t now ids
    | .ok change =>
      let rest := closeAll change.table now ids
      { rest with notices := change.notices ++ rest.notices }

/-- Rejects every gate of a run that is still pending. The answer has their identities. -/
def closeRun (t : GateTable ι) (runId : String) (now : Time) : GateChange ι (List String) :=
  let ids := (t.pending (some runId)).map Gate.id
  { closeAll t now ids with answer := ids }

end GateTable

end GatedPipeline
