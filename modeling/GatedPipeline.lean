import GatedPipeline.Api
import GatedPipeline.Budget
import GatedPipeline.Cli.Execute
import GatedPipeline.Description.Body
import GatedPipeline.Description.Builder
import GatedPipeline.Description.Condition
import GatedPipeline.Description.Host
import GatedPipeline.Description.Shell
import GatedPipeline.Description.Store
import GatedPipeline.Description.Workflow
import GatedPipeline.Gate.Desk
import GatedPipeline.Host
import GatedPipeline.Log
import GatedPipeline.Main
import GatedPipeline.Stage.Builder
import GatedPipeline.Proofs.Group
import GatedPipeline.Proofs.Graph.Build
import GatedPipeline.Proofs.Graph.Inputs
import GatedPipeline.Proofs.Gate.Table
import GatedPipeline.Proofs.Gate.History
import GatedPipeline.Proofs.Outputs
import GatedPipeline.Proofs.Outputs.History
import GatedPipeline.Proofs.Run.Moves
import GatedPipeline.Proofs.Run.Change
import GatedPipeline.Proofs.Run.Rise
import GatedPipeline.Proofs.Run.Visit
import GatedPipeline.Proofs.Run.Step
import GatedPipeline.Proofs.Run.Launch
import GatedPipeline.Proofs.Run.Lifecycle
import GatedPipeline.Proofs.Run.Dispatch
import GatedPipeline.Proofs.Run.DataFlow
import GatedPipeline.Proofs.Run.Stop
import GatedPipeline.Proofs.Run.Passes
import GatedPipeline.Proofs.Run.Progress
import GatedPipeline.Proofs.Decimal.Range
import GatedPipeline.Proofs.Condition.Relate
import GatedPipeline.Proofs.Condition.Fault
import GatedPipeline.Proofs.Condition.Why
import GatedPipeline.Proofs.Condition.Output
import GatedPipeline.Proofs.Condition.Parse
import GatedPipeline.Proofs.Run.Calm
import GatedPipeline.Proofs.Run.Visible
import GatedPipeline.Proofs.Run.Reference
import GatedPipeline.Proofs.Run.World
import GatedPipeline.Proofs.Run.Agreement
import GatedPipeline.Proofs.Run.Schedule
import GatedPipeline.Proofs.Run.Continue
import GatedPipeline.Proofs.Run.Overtake
import GatedPipeline.Proofs.Run.Closing
import GatedPipeline.Proofs.Gate.Policies
import GatedPipeline.Proofs.Run.Refusal
import GatedPipeline.Proofs.Store.Supersede
import GatedPipeline.Proofs.Store.Decisions
import GatedPipeline.Proofs.Run.Bodies
import GatedPipeline.Proofs.Run.Course
import GatedPipeline.Proofs.Run.Halt
import GatedPipeline.Proofs.Run.Published
import GatedPipeline.Proofs.Run.Contract
import GatedPipeline.Proofs.Run.Decision
import GatedPipeline.Proofs.Run.Available
import GatedPipeline.Proofs.Condition.Reads
import GatedPipeline.Proofs.Condition.Overflow
import GatedPipeline.Proofs.Run.Stored
import GatedPipeline.Proofs.Run.Status
import GatedPipeline.Proofs.Graph.Cycle
import GatedPipeline.Proofs.Graph.Levels
import GatedPipeline.Proofs.Run.Neighbours
import GatedPipeline.Proofs.Run.Reinstated
import GatedPipeline.Proofs.Stage.Matrix
import GatedPipeline.Proofs.Stage.Coordinates
import GatedPipeline.Proofs.Run.Repeats
import GatedPipeline.Proofs.Graph.Reference
import GatedPipeline.Proofs.Graph.Resolve
import GatedPipeline.Proofs.Graph.Matching
import GatedPipeline.Proofs.Run.Causes
import GatedPipeline.Proofs.Run.Siblings
import GatedPipeline.Proofs.Run.Environment
import GatedPipeline.Proofs.Run.Timeout
import GatedPipeline.Proofs.Run.Ready
import GatedPipeline.Proofs.Condition.Order
import GatedPipeline.Proofs.Condition.Literal
import GatedPipeline.Proofs.Condition.Listing
import GatedPipeline.Proofs.Shell
