-- How far one stage instance of a run has come.
import GatedPipeline.Time
import GatedPipeline.Value
import GatedPipeline.Stage.State
namespace GatedPipeline

/-- The state of an instance, the outputs it has published, why it ended without them, and when
its body started and ended. -/
structure StageRecord where
  state : State := .pending
  outputs : List (String × Value) := []
  error : Option String := none
  startedAt : Option Time := none
  finishedAt : Option Time := none
  deriving Inhabited

end GatedPipeline
