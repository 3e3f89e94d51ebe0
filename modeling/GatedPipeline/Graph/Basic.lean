-- The graph of a workflow's instances. An instance depends on all instances
-- of the stages that its own stage needs, and each input and each output that
-- its condition reads has exactly one producer.
import GatedPipeline.Pairs
import GatedPipeline.Text.Sorted
import GatedPipeline.Stage.Basic
import GatedPipeline.Stage.State
import GatedPipeline.Condition.Eval
import GatedPipeline.Graph.Reference
import GatedPipeline.Graph.Fault
import GatedPipeline.Graph.Order
namespace GatedPipeline
open GatedPipeline.Text

/-! ## The graph -/

/-- Where an input comes from. -/
structure Source where
  producer : String
  key : String
  deriving DecidableEq, Repr

/-- The producer of outputs that belong to the whole run. -/
def runScope : String := "run"

/-- The outputs of the whole run. -/
def runOutputs : List String := ["release_tag"]

/-- A graph of instances, in the order in which they were declared. -/
structure StageGraph where
  /-- The instances by identity. -/
  byId : List (String × Instance)
  /-- For each instance, those that it depends on directly. -/
  direct : List (String × List String)
  /-- All instances, each after those that it depends on. -/
  order : List String
  /-- For each instance, those that it depends on directly or through others. -/
  ancestors : List (String × List String)
  /-- For each instance, its inputs by name. -/
  inputs : List (String × List (String × Source)) := []
  /-- For an instance, a stage and a key in its condition: the producer. -/
  conditionProducers : List ((String × String × String) × String) := []
  deriving Inhabited

namespace StageGraph

/-! ## Dependencies -/

/-- Instances by identity. -/
def named (all : List Instance) : List (String × Instance) := all.map fun i => (i.id, i)

/-- For each instance, the identities of those whose stages its own stage needs. -/
def directAmong (byId : List (String × Instance)) : List (String × List String) :=
  byId.map fun (id, i) =>
    (id, (byId.filter fun p => i.template.needs.contains p.2.name).map (·.1))

/-- For each item of an order, what it depends on directly or through others. -/
def ancestorsAlong (deps : String → List String) (order : List String) :
    List (String × List String) :=
  order.foldl (fun table i =>
    let own := deps i
    let all := own ++ own.flatMap fun d => (getPair? d table).getD []
    table ++ [(i, order.filter fun a => all.contains a)]) []

def instances (g : StageGraph) : List Instance := g.byId.map (·.2)

def ids (g : StageGraph) : List String := g.byId.map (·.1)

def instance? (g : StageGraph) (id : String) : Option Instance := getPair? id g.byId

def dependencies (g : StageGraph) (id : String) : List String := (getPair? id g.direct).getD []

/-- The instances that depend directly on this one. -/
def dependents (g : StageGraph) (id : String) : List String :=
  (g.direct.filter (·.2.contains id)).map (·.1)

/-- What the instance depends on, directly or through others, in the order of the graph. -/
def ancestorsOf (g : StageGraph) (id : String) : List String := (getPair? id g.ancestors).getD []

/-- The instances that depend on this one, directly or through others. -/
def descendants (g : StageGraph) (id : String) : List String :=
  g.order.filter fun i => (g.ancestorsOf i).contains id

/-- The other instances of the same stage. -/
def siblings (g : StageGraph) (id : String) : List String :=
  match g.instance? id with
  | none => []
  | some self =>
    g.order.filter fun i => i != id && (g.instance? i).any (·.name == self.name)

/-- The instances in levels: each depends only on instances of earlier levels. -/
def levels (g : StageGraph) : List (List String) := Graph.levels g.dependencies g.order

/-! ## Resolving references -/

/-- Whether the producer agrees with the consumer on every dimension that both have. -/
def compatible (consumer producer : Instance) : Bool :=
  producer.coordinates.all fun (d, v) =>
    match consumer.coordinates.lookup d with
    | some w => w == v
    | none => true

/-- Whether an ancestor may be meant by a reference: it is of the named stage, declares the
key, and has the coordinates that are given; without any it has to agree with the consumer. -/
def isCandidate (consumer : Instance) (ref : OutputRef) (producer : Instance) : Bool :=
  ref.stage.all (· == producer.name) && producer.template.outputs.contains ref.key &&
    ref.qualifiers.all (fun (d, v) => producer.coordinates.lookup d == some v) &&
    (!ref.qualifiers.isEmpty || compatible consumer producer)

/-- The ancestors of an instance, in the order of the graph. -/
def ancestorInstances (g : StageGraph) (id : String) : List Instance :=
  (g.ancestorsOf id).filterMap g.instance?

/-- Whether the release decision is settled before the instance ends: it or one of its
ancestors is a release stage. -/
def isReleasing (g : StageGraph) (consumer : Instance) : Bool :=
  consumer.template.release || (g.ancestorInstances consumer.id).any (·.template.release)

/-- The one output that a reference of an instance means. -/
def resolve (g : StageGraph) (consumer : Instance) (ref : OutputRef) : Except PlanFault Source :=
  let id := consumer.id
  if ref.stage = some runScope || (ref.stage = none && runOutputs.contains ref.key) then
    if !runOutputs.contains ref.key then .error (.unknownDependency id ref.raw [])
    else if !g.isReleasing consumer then
      .error (.unknownDependency id
        (ref.raw ++ " (requires a release stage or a dependency on one)") [])
    else .ok ⟨runScope, ref.key⟩
  else
    let above := g.ancestorInstances id
    match above.filter (isCandidate consumer ref) with
    | [] => .error (.unknownDependency id ref.raw (sortedSet (above.map (·.name))))
    | [p] => .ok ⟨p.id, ref.key⟩
    | ps => .error (.ambiguousOutput id ref.raw (ps.map Instance.id))

/-- The reference that a text writes, in the inputs of a consumer. -/
def parseRef (raw consumer : String) : Except PlanFault OutputRef :=
  match OutputRef.parse? raw with
  | some ref => .ok ref
  | none => .error (.unknownDependency consumer raw [])

/-- The inputs of an instance by name. The name is the key, or the reference as it is written
when the key is taken. -/
def resolveInputs (g : StageGraph) (i : Instance) : Except PlanFault (List (String × Source)) :=
  i.template.inputs.foldlM (fun found raw => do
    let ref ← parseRef raw i.id
    let source ← g.resolve i ref
    let name := if (getPair? ref.key found).isSome then ref.raw else ref.key
    return putPair name source found) []

/-- The producers of the outputs that the condition of an instance reads. -/
def resolveCondition (g : StageGraph) (i : Instance) :
    Except PlanFault (List ((String × String × String) × String)) :=
  match i.template.condition with
  | none => .ok []
  | some text =>
    if text = "" then .ok []
    else match Condition.outputReferences text with
      | .error fault => .error (.condition text fault)
      | .ok refs => refs.mapM fun (stage, key) => do
          let source ← g.resolve i { raw := stage ++ "." ++ key, stage := some stage, key }
          return ((i.id, stage, key), source.producer)

/-! ## Building -/

/-- The first identity that comes twice. -/
def duplicateId? : List Instance → Option String
  | is => (is.foldl (fun (seen, found) i =>
      (seen ++ [i.id], found <|> if seen.contains i.id then some i.id else none))
      (([], none) : List String × Option String)).2

/-- The first need of an instance that names no stage. -/
def unknownNeed? (all : List Instance) : Option PlanFault :=
  all.findSome? fun i =>
    (i.template.needs.find? fun n => !all.any (·.name == n)).map fun n =>
      .unknownDependency i.id n (sortedSet (all.map Instance.name))

/-- Resolves the references of the instances one after the other. -/
def resolveAll (g : StageGraph) : List Instance → Except PlanFault StageGraph
  | [] => .ok g
  | i :: is => do
    let inputs ← g.resolveInputs i
    let producers ← g.resolveCondition i
    resolveAll { g with
      inputs := g.inputs ++ [(i.id, inputs)]
      conditionProducers := g.conditionProducers ++ producers } is

/-- The graph of the instances. Identities are distinct, every need names a stage, nothing
depends on itself, and every reference has exactly one producer. -/
def build (all : List Instance) : Except PlanFault StageGraph :=
  match duplicateId? all with
  | some id => .error (.duplicateStage id)
  | none =>
    match unknownNeed? all with
    | some fault => .error fault
    | none =>
      let byId := named all
      let direct := directAmong byId
      let deps := fun id => (getPair? id direct).getD []
      let ids := byId.map (·.1)
      let order := Graph.topologicalOrder deps ids
      if order.length = ids.length then
        resolveAll { byId, direct, order, ancestors := ancestorsAlong deps order } all
      else .error (.cycle (sortTexts (ids.filter fun i => !order.contains i)))

/-- The graph of the instances of all stages. -/
def ofTemplates (ts : List StageTemplate) : Except PlanFault StageGraph :=
  match expandAll ts with
  | .error fault => .error (.matrix fault)
  | .ok all => build all

end StageGraph

end GatedPipeline
