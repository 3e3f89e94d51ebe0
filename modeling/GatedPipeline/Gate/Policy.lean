-- Approval policies: rules that approve a gate as soon as it is requested.
import GatedPipeline.Condition.Eval
import GatedPipeline.Gate.Basic
namespace GatedPipeline

/-- What a policy may look at. -/
structure Policy.Request where
  /-- The name of the gate that is asked for. -/
  gate : String
  runId : String
  trigger : Trigger
  /-- The gates of the run, by name. -/
  gates : List (String × GateStatus)
  /-- The facts of the release decision, if there is one. -/
  facts : Option (List (String × String))

/-- The facts of the release decision; none when there is no decision. -/
def Policy.Request.release (r : Policy.Request) : List (String × String) := r.facts.getD []

inductive Policy where
  /-- A condition on the trigger and the release decision. -/
  | when (expression : String)
  /-- All the named gates of the run are approved. -/
  | afterApproved (gates : List String)
  /-- All the policies approve. -/
  | allOf (policies : List Policy)
  /-- A policy that breaks down whenever it is asked. -/
  | broken
  /-- Any other rule, under its title if it has one. It gives no answer if it breaks down. -/
  | rule (title : Option String) (judge : Policy.Request → Option Bool)
  deriving Inhabited

namespace Policy

mutual

/-- The name of a policy; a rule that has no title goes by another name. -/
def nameOr (untitled : String) : Policy → String
  | .when expression => s!"when({expression})"
  | .afterApproved gates => "after_approved(" ++ ", ".intercalate gates ++ ")"
  | .allOf policies => "all_of(" ++ ", ".intercalate (namesOf policies) ++ ")"
  | .broken => "broken"
  | .rule title _ => title.getD untitled

def namesOf : List Policy → List String
  | [] => []
  | p :: ps => p.nameOr "?" :: namesOf ps

end

/-- The name of a policy, which is recorded on the gates that it approves. -/
def name (p : Policy) : String := p.nameOr "policy"

mutual

/-- Whether a policy approves. One that breaks down does not. -/
def approves (r : Request) : Policy → Bool
  | .when expression =>
    match (Condition.evaluate (some expression)
        { trigger := r.trigger, release := some (.ok r.release) }).holds with
    | .ok b => b
    | .error _ => false
  | .afterApproved gates => gates.all fun n => r.gates.lookup n == some .approved
  | .allOf policies => approvesAll r policies
  | .broken => false
  | .rule _ judge => (judge r).getD false

def approvesAll (r : Request) : List Policy → Bool
  | [] => true
  | p :: ps => p.approves r && approvesAll r ps

end

end Policy

end GatedPipeline
