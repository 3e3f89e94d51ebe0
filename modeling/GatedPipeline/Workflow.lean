-- Workflows: stages, the filter on triggers, and how runs of one group get
-- along.
import GatedPipeline.Graph.Basic
import GatedPipeline.Gate.Policy
namespace GatedPipeline
open GatedPipeline.Text

/-- A policy that a workflow brings along. Two approvals with one mark are one and the same. -/
structure Approval where
  policy : Policy
  mark : String := ""
  deriving Inhabited

structure Workflow where
  name : String
  stages : List StageTemplate := []
  /-- The condition on the trigger under which a run starts at all. -/
  on : Option String := none
  /-- The group of a run, with places for the workflow's name and the ref. -/
  concurrency : String := "\x7bworkflow\x7d@\x7bref\x7d"
  /-- Whether a new run cancels the run of its group that is active, or waits for it. -/
  cancelInProgress : Bool := true
  failFast : Bool := false
  maxParallel : Option Int := none
  /-- Policies by the pattern of the gates that they are for. -/
  approvals : List (String × Approval) := []
  deriving Inhabited

namespace Workflow

/-- The group of a run of this workflow. The name is filled in before the ref. -/
def concurrencyGroup (w : Workflow) (t : Trigger) : String :=
  replace "\x7bref\x7d" t.ref (replace "\x7bworkflow\x7d" w.name w.concurrency)

/-- The graph of the workflow's instances. -/
def plan (w : Workflow) : Except PlanFault StageGraph := StageGraph.ofTemplates w.stages

end Workflow

end GatedPipeline
