-- Shell commands as JSON objects: what one does, and how one was started.
import GatedPipeline.Json.Basic
import GatedPipeline.Shell
namespace GatedPipeline.Shell

/-- What a command does that an object describes. -/
def CommandScript.ofJson (j : Json) : CommandScript :=
  { looks := ((j.field? "ticks").map fun n => n.asWhole.toNat).getD 0
    cancelAt := ((j.field? "cancel_at").map Json.asWhole).bind Int.toNat?
    cancelAfter := j.flagAt "cancel_after"
    stubborn := j.flagAt "stubborn"
    stdout := (j.textAt "stdout").toUTF8
    stderr := (j.textAt "stderr").toUTF8
    code := ((j.field? "code").map Json.asWhole).getD 0
    file := .append (j.textAt "file").toUTF8 }

/-- The limit that a number sets. -/
def StepLimit.ofJson (j : Json) : StepLimit := ⟨j.asTime, j.toValue.shown⟩

def Started.toJson (s : Started) : Json :=
  .object [("cmd", .text s.command), ("cwd", .text s.directory),
    ("env", .map .text s.environment), ("signals", .texts s.signals)]

end GatedPipeline.Shell
