-- Version sources and release decisions as JSON objects.
import GatedPipeline.Json.Basic
import GatedPipeline.Release.ProjectFile
namespace GatedPipeline

/-- The source that an object describes. One of the kind `context` reads the trigger. -/
def VersionSource.ofJson (t : Trigger) (j : Json) : VersionSource :=
  match j.textAt "kind" with
  | "context" =>
    .ofTrigger t (j.textAt "candidate_key" "version") (j.textAt "latest_key" "latest_release")
  | "file" =>
    let text := match j.textAt? "text" with
      | some text => .ok text
      | none => .error .missing
    .ofProject "project.toml" text (j.textAt? "latest") (j.textAt "prefix" "v")
  | _ => .fixed (j.textAt "candidate") (j.textAt? "latest")

def ReleaseOutcome.toJson (o : ReleaseOutcome) : Json :=
  .object [("decision", .text o.decision.name), ("tag", .text o.tag),
    ("candidate", .text o.candidate), ("latest", .text (o.latest.getD "")),
    ("latest_raw", .optText o.latest)]

end GatedPipeline
