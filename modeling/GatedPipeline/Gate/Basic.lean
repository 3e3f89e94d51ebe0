-- Approval gates. A gate starts pending and is decided once.
import GatedPipeline.Time
import GatedPipeline.Text.Quoted
namespace GatedPipeline
open GatedPipeline.Text

/-! ## Statuses and decisions -/

inductive GateStatus where
  | pending | approved | rejected
  deriving DecidableEq, Repr, Inhabited

namespace GateStatus

def all : List GateStatus := [.pending, .approved, .rejected]

def name : GateStatus → String
  | .pending => "pending" | .approved => "approved" | .rejected => "rejected"

def ofName? (s : String) : Option GateStatus := all.find? (·.name == s)

end GateStatus

/-- A decision as it is asked for: in words, or as a status. -/
inductive Decision where
  | words (s : String)
  | status (s : GateStatus)
  deriving DecidableEq, Repr

namespace Decision

/-- The words for the two decisions, in any case. -/
def ofWords? (s : String) : Option GateStatus :=
  let word := s.map Char.toLower
  if word = "approve" || word = "approved" then some .approved
  else if word = "reject" || word = "rejected" then some .rejected
  else none

/-- The status that a decision gives; none if it decides nothing. -/
def outcome? : Decision → Option GateStatus
  | .words s => ofWords? s
  | .status .pending => none
  | .status s => some s

/-- The decision as it is shown in a message. -/
def shown : Decision → String
  | .words s => quoted s
  | .status s => s!"<GateStatus.{s.name.map Char.toUpper}: " ++ quoted s.name ++ ">"

end Decision

/-! ## Gates -/

/-- The identity of a gate: its run and its name. -/
def gateId (runId name : String) : String := runId ++ "/" ++ name

structure Gate where
  name : String
  runId : String
  status : GateStatus := .pending
  actor : Option String := none
  comment : String := ""
  requestedAt : Time
  decidedAt : Option Time := none
  deriving DecidableEq, Inhabited

namespace Gate

def id (g : Gate) : String := gateId g.runId g.name

/-- The gate with a decision. -/
def decided (g : Gate) (status : GateStatus) (actor comment : String) (now : Time) : Gate :=
  { g with status, actor := some actor, comment, decidedAt := some now }

end Gate

/-- The actor of a gate that was still pending when its run ended. -/
def runFinishedActor : String := "system:run-finished"

/-- The actor of a gate that waited too long. -/
def timeoutActor : String := "system:timeout"

/-- Why a gate cannot be decided or shown. -/
inductive GateFault where
  | unknown (id : String)
  | invalidDecision (d : Decision)
  deriving DecidableEq, Repr

def GateFault.message : GateFault → String
  | .unknown id => s!"Unknown gate: {id}"
  | .invalidDecision d => "Invalid gate decision: " ++ d.shown

end GatedPipeline
