-- Release decisions. Versions are opaque: all that counts is whether the
-- candidate is the latest published one.
import GatedPipeline.FileTree
import GatedPipeline.Trigger
namespace GatedPipeline

/-! ## Outcomes -/

inductive ReleaseDecision where
  | release | skip
  deriving DecidableEq, Repr, Inhabited

namespace ReleaseDecision

def all : List ReleaseDecision := [.release, .skip]

def name : ReleaseDecision → String
  | .release => "release" | .skip => "skip"

def ofName? (s : String) : Option ReleaseDecision := all.find? (·.name == s)

end ReleaseDecision

/-- Skips a candidate that is published already. -/
def decideRelease (candidate : String) (latest : Option String) : ReleaseDecision :=
  if latest = some candidate then .skip else .release

structure ReleaseOutcome where
  decision : ReleaseDecision
  candidate : String
  latest : Option String
  deriving DecidableEq, Repr, Inhabited

namespace ReleaseOutcome

/-- The tag to release; empty when nothing is released. -/
def tag (o : ReleaseOutcome) : String := if o.decision = .release then o.candidate else ""

/-- What conditions and policies may read. -/
def facts (o : ReleaseOutcome) : List (String × String) :=
  [("decision", o.decision.name), ("tag", o.tag), ("candidate", o.candidate),
    ("latest", o.latest.getD "")]

end ReleaseOutcome

/-! ## Sources -/

/-- Why a source has no version. -/
inductive SourceFault where
  /-- The trigger, or the project file, has no version. -/
  | noVersion (message : String)
  /-- There is no project file that can be opened. -/
  | noFile (path : String) (fault : PathFault)
  /-- The project file is not written as it should be. -/
  | badFile (message : String)
  /-- The project file has a whole number with too many digits. -/
  | longNumber (message : String)
  deriving DecidableEq, Repr

def SourceFault.message : SourceFault → String
  | .noVersion message => message
  | .noFile path fault => fault.message path
  | .badFile message => message
  | .longNumber message => message

/-- Where versions come from. A source may answer differently each time it is read, so what it
gives depends on how often it was read before. -/
structure VersionSource where
  candidate : Nat → Except SourceFault String
  latest : Nat → Except SourceFault (Option String)
  deriving Inhabited

namespace VersionSource

/-- A source with fixed versions. -/
def fixed (candidate : String) (latest : Option String) : VersionSource :=
  { candidate := fun _ => .ok candidate, latest := fun _ => .ok latest }

/-- A source that reads the values of the trigger. An empty latest version is none. -/
def ofTrigger (t : Trigger) (candidateKey : String := "version")
    (latestKey : String := "latest_release") : VersionSource :=
  { candidate := fun _ =>
      match t.values.lookup candidateKey with
      | some v => .ok v
      | none => .error (.noVersion s!"trigger has no '{candidateKey}' value")
    latest := fun _ => .ok ((t.values.lookup latestKey).filter (· ≠ "")) }

end VersionSource

/-! ## The engine -/

/-- Decides once for a run. The source is read until it gives both versions, and not again. -/
structure ReleaseEngine where
  source : VersionSource
  reads : Nat := 0
  outcome : Option ReleaseOutcome := none
  deriving Inhabited

namespace ReleaseEngine

/-- Reads the source once. -/
def readSource (e : ReleaseEngine) : Except SourceFault ReleaseOutcome := do
  let candidate ← e.source.candidate e.reads
  let latest ← e.source.latest e.reads
  return { decision := decideRelease candidate latest, candidate, latest }

/-- The decision of the run, and the engine after it. -/
def decide (e : ReleaseEngine) : Except SourceFault ReleaseOutcome × ReleaseEngine :=
  match e.outcome with
  | some o => (.ok o, e)
  | none =>
    let e' := { e with reads := e.reads + 1 }
    match e.readSource with
    | .ok o => (.ok o, { e' with outcome := some o })
    | .error fault => (.error fault, e')

/-- Puts back a decision that was recorded earlier. -/
def restore (e : ReleaseEngine) (o : ReleaseOutcome) : ReleaseEngine := { e with outcome := some o }

end ReleaseEngine

end GatedPipeline
