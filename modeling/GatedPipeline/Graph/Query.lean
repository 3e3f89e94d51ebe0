-- Questions about a graph during a run: where an input comes from, how the
-- dependencies of an instance stand, and which instances could start.
import GatedPipeline.Graph.Basic
namespace GatedPipeline.StageGraph
open GatedPipeline.Text

/-! ## Inputs -/

/-- The inputs of an instance by name. -/
def inputsOf (g : StageGraph) (id : String) : List (String × Source) :=
  (getPair? id g.inputs).getD []

/-- Why there is no producer of an input. -/
inductive InputFault where
  | unknownInstance (id : String)
  | badReference (fault : PlanFault)
  | notDeclared (id ref : String)

def InputFault.message : InputFault → String
  | .unknownInstance id => id
  | .badReference fault => fault.message
  | .notDeclared id ref => s!"{id} declares no input " ++ quoted ref

/-- The producer of one of the declared inputs of an instance. -/
def producerOf (g : StageGraph) (id raw : String) : Except InputFault String :=
  match getPair? id g.inputs with
  | none => .error (.unknownInstance id)
  | some inputs =>
    match parseRef raw id with
    | .error fault => .error (.badReference fault)
    | .ok ref =>
      match getPair? ref.raw inputs <|> getPair? ref.key inputs with
      | some source => .ok source.producer
      | none => .error (.notDeclared id raw)

/-- The producer of an output that the condition of an instance reads. -/
def conditionProducer? (g : StageGraph) (id stage key : String) : Option String :=
  getPair? (id, stage, key) g.conditionProducers

/-! ## States -/

/-- How the dependencies of an instance stand. -/
inductive DependencyStatus where
  /-- Some have not ended, and none is lost. -/
  | waiting
  /-- One has ended without success. -/
  | lost
  /-- All have succeeded. -/
  | satisfied
  deriving DecidableEq, Repr

def DependencyStatus.name : DependencyStatus → String
  | .waiting => "waiting" | .lost => "blocked-out" | .satisfied => "satisfied"

def dependencyStatus (g : StageGraph) (id : String) (states : String → State) : DependencyStatus :=
  let deps := g.dependencies id
  if deps.any fun d => (states d).isLost then .lost
  else if deps.all fun d => states d == .succeeded then .satisfied
  else .waiting

/-- The instances that have not started and whose dependencies have all succeeded. -/
def unlocked (g : StageGraph) (states : String → State) : List String :=
  g.ids.filter fun id =>
    (states id).isWaiting && g.dependencyStatus id states == .satisfied

/-! ## Conditions -/

/-- What the condition of an instance may read. An output of a stage is the one of the
producer that was found when the graph was built. -/
def conditionScope (g : StageGraph) (i : Instance) (trigger : Trigger)
    (outputs : Option (String → String → Option Value))
    (release : Option (Except String (List (String × String)))) : Condition.Scope :=
  { trigger
    matrix := i.coordinates
    outputs := some fun stage key => do
      let producer ← g.conditionProducer? i.id stage key
      (← outputs) producer key
    release }

/-- Whether the condition of an instance holds. -/
def conditionHolds (g : StageGraph) (i : Instance) (trigger : Trigger)
    (outputs : Option (String → String → Option Value))
    (release : Option (Except String (List (String × String)))) : Condition.Verdict :=
  Condition.evaluate i.template.condition (g.conditionScope i trigger outputs release)

/-- The instances that could start: not started, all dependencies succeeded, and the condition
holds. -/
def ready (g : StageGraph) (states : String → State) (trigger : Trigger)
    (outputs : Option (String → String → Option Value))
    (release : Option (Except String (List (String × String)))) :
    Except Condition.Breakdown (List String) :=
  (g.unlocked states).filterM fun id =>
    match g.instance? id with
    | none => .ok false
    | some i => (g.conditionHolds i trigger outputs release).holds

end GatedPipeline.StageGraph
