-- Why a run started: the event, the ref it happened on, and facts about it.
namespace GatedPipeline

/-! ## Events -/

inductive EventKind where
  | push | pullRequest | manual | schedule
  deriving DecidableEq, Repr, Inhabited

def EventKind.all : List EventKind := [.push, .pullRequest, .manual, .schedule]

def EventKind.name : EventKind → String
  | .push => "push" | .pullRequest => "pull_request" | .manual => "manual" | .schedule => "schedule"

def EventKind.ofName? (s : String) : Option EventKind := EventKind.all.find? (·.name == s)

/-! ## Triggers -/

/-- Why a run started. It is made once for a run and never changes. -/
structure Trigger where
  event : EventKind := .push
  ref : String := "refs/heads/main"
  fork : Bool := false
  actor : String := ""
  /-- Named facts, such as the commit or a version. -/
  values : List (String × String) := []
  changedFiles : List String := []
  workflow : String := ""
  deriving DecidableEq, Repr, Inhabited

namespace Trigger

/-- The ref without `refs/heads/` or `refs/tags/` before it. -/
def branch (t : Trigger) : String :=
  let cs := t.ref.toList
  let heads := "refs/heads/".toList
  let tags := "refs/tags/".toList
  if heads.isPrefixOf cs then String.ofList (cs.drop heads.length)
  else if tags.isPrefixOf cs then String.ofList (cs.drop tags.length)
  else t.ref

/-- The group of a trigger on its own: workflow and ref, or the ref alone. -/
def group (t : Trigger) : String :=
  if t.workflow = "" then t.ref else t.workflow ++ "@" ++ t.ref

end Trigger

end GatedPipeline
