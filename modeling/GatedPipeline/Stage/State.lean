-- The states of a stage in a run, and of a run.
namespace GatedPipeline

/-! ## States of a stage -/

inductive State where
  | pending | blocked | ready | running | succeeded | failed | skipped | cancelled
  deriving DecidableEq, Repr, Inhabited

namespace State

def all : List State :=
  [.pending, .blocked, .ready, .running, .succeeded, .failed, .skipped, .cancelled]

def name : State → String
  | .pending => "pending" | .blocked => "blocked" | .ready => "ready" | .running => "running"
  | .succeeded => "succeeded" | .failed => "failed" | .skipped => "skipped"
  | .cancelled => "cancelled"

def ofName? (s : String) : Option State := all.find? (·.name == s)

/-- A stage that has ended stays as it is. -/
def isTerminal : State → Bool
  | .succeeded | .failed | .skipped | .cancelled => true
  | _ => false

/-- A stage that has ended without its outputs. -/
def isLost : State → Bool
  | .failed | .skipped | .cancelled => true
  | _ => false

/-- A stage whose body has not been started. -/
def isWaiting : State → Bool
  | .pending | .blocked | .ready => true
  | _ => false

/-- How far along a stage is. All ends are as far. -/
def rank : State → Nat
  | .pending => 0
  | .blocked => 1
  | .ready => 2
  | .running => 3
  | .succeeded | .failed | .skipped | .cancelled => 4

end State

/-! ## Statuses of a run -/

inductive RunStatus where
  | running | succeeded | failed | cancelled
  deriving DecidableEq, Repr, Inhabited

namespace RunStatus

def all : List RunStatus := [.running, .succeeded, .failed, .cancelled]

def name : RunStatus → String
  | .running => "running" | .succeeded => "succeeded" | .failed => "failed"
  | .cancelled => "cancelled"

def ofName? (s : String) : Option RunStatus := all.find? (·.name == s)

end RunStatus

end GatedPipeline
