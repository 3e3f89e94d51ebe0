-- What holds of every graph that was accepted: identities are distinct, the
-- order has every instance after those that it depends on, and each input
-- comes from an ancestor that declares it, or from the release decision.
import GatedPipeline.Graph.Query
import GatedPipeline.Proofs.Pairs
import GatedPipeline.Proofs.Graph.Order
import Mathlib.Logic.Relation
namespace GatedPipeline.StageGraph
open GatedPipeline.Text

/-! ## What an accepted graph is like -/

/-- The instance depends on the other one, directly or through others. -/
def DependsOn (g : StageGraph) : String → String → Prop :=
  Relation.TransGen fun i d => d ∈ g.dependencies i

/-- The source of an input: the release decision, which is settled before the consumer ends, or
an output that an ancestor declares. -/
def Feeds (g : StageGraph) (consumer : Instance) (source : Source) : Prop :=
  (source = ⟨runScope, "release_tag"⟩ ∧ g.isReleasing consumer = true) ∨
    ∃ p ∈ g.ancestorInstances consumer.id, p.id = source.producer ∧ source.key ∈ p.template.outputs

/-- The condition of the consumer reads the output of a stage: it mentions it, and it is the tag of the
release, or an ancestor declares it. -/
def Reads (g : StageGraph) (consumer : Instance) (stage key producer : String) : Prop :=
  (∃ text refs, consumer.template.condition = some text ∧
      Condition.outputReferences text = .ok refs ∧ (stage, key) ∈ refs) ∧
    ((stage, key, producer) = (runScope, "release_tag", runScope) ∨
      ∃ p ∈ g.ancestorInstances consumer.id, p.id = producer ∧ key ∈ p.template.outputs)

structure Sound (g : StageGraph) : Prop where
  ids_nodup : g.ids.Nodup
  order_perm : g.order.Perm g.ids
  sorted : Graph.Sorted g.dependencies g.order
  instance_id : ∀ {id i}, g.instance? id = some i → i.id = id
  dependencies_mem : ∀ {id d}, d ∈ g.dependencies id → d ∈ g.ids
  ancestors : ∀ {id a}, a ∈ g.ancestorsOf id → g.DependsOn id a
  inputs : ∀ {id name source}, (name, source) ∈ g.inputsOf id →
    ∃ i, g.instance? id = some i ∧ g.Feeds i source
  conditions : ∀ {i stage key p}, g.instance? i.id = some i →
    g.conditionProducer? i.id stage key = some p → g.Reads i stage key p

/-! ## Identities -/

theorem ids_named (all : List Instance) : (named all).map (·.1) = all.map Instance.id := by
  simp [named, Function.comp_def]

/-- The fold that looks for a repeated identity keeps what it has seen and what it has found. -/
theorem duplicateId_fold (is : List Instance) (seen : List String) (found : Option String) :
    (is.foldl (fun (seen, found) i =>
      (seen ++ [i.id], found <|> if seen.contains i.id then some i.id else none))
      (seen, found)).2 = none ↔
      found = none ∧ (is.map Instance.id).Nodup ∧ ∀ i ∈ is, i.id ∉ seen := by
  induction is generalizing seen found with
  | nil => simp
  | cons i is ih =>
    have hfound : (found <|> if seen.contains i.id then some i.id else none) = none ↔
        found = none ∧ i.id ∉ seen := by cases found <;> simp
    have hseen : (∀ j ∈ is, j.id ∉ seen ++ [i.id]) ↔
        (∀ j ∈ is, j.id ∉ seen) ∧ i.id ∉ is.map Instance.id := by
      simp only [List.mem_append, List.mem_singleton, not_or, forall_and, List.mem_map, not_exists,
        not_and]
    rw [List.foldl_cons, ih, hfound, hseen, List.map_cons, List.nodup_cons,
      List.forall_mem_cons]
    tauto

theorem duplicateId?_eq_none_iff {all : List Instance} :
    duplicateId? all = none ↔ (all.map Instance.id).Nodup := by
  rw [duplicateId?, duplicateId_fold]
  simp

/-! ## Dependencies -/

theorem mem_directAmong {byId : List (String × Instance)} {id d : String} {ds : List String}
    (h : getPair? id (directAmong byId) = some ds) (hd : d ∈ ds) : d ∈ byId.map (·.1) := by
  obtain ⟨p, _, he⟩ := List.mem_map.1 (mem_of_getPair? h)
  cases he
  obtain ⟨q, hq, rfl⟩ := List.mem_map.1 hd
  exact List.mem_map_of_mem (List.mem_filter.1 hq).1

/-- Every entry of a table of ancestors lists dependencies, direct ones or through others. -/
def Traced (deps : String → List String) (table : List (String × List String)) : Prop :=
  ∀ i as, (i, as) ∈ table → ∀ a ∈ as, Relation.TransGen (fun i d => d ∈ deps i) i a

/-- The table grows by one entry at a time, made from the entries before it. -/
theorem ancestorsAlong_induction {deps : String → List String} {order : List String}
    {P : List (String × List String) → Prop} (nil : P [])
    (snoc : ∀ table i, P table → P (table ++ [(i, order.filter fun a =>
      (deps i ++ (deps i).flatMap fun d => (getPair? d table).getD []).contains a)])) :
    P (ancestorsAlong deps order) :=
  List.foldlRecOn order _ nil fun table h i _ => snoc table i h

theorem traced_ancestorsAlong (deps : String → List String) (order : List String) :
    Traced deps (ancestorsAlong deps order) := by
  refine ancestorsAlong_induction (by intro i as h; cases h) fun table i h => ?_
  intro j as hj a ha
  rcases List.mem_append.1 hj with hj | hj
  · exact h j as hj a ha
  · obtain ⟨rfl, rfl⟩ := Prod.mk.inj (List.mem_singleton.1 hj)
    have hall := (List.mem_filter.1 ha).2
    rw [List.contains_iff_mem, List.mem_append, List.mem_flatMap] at hall
    rcases hall with hown | ⟨d, hd, hda⟩
    · exact .single hown
    · rcases hg : getPair? d table with _ | ds
      · simp [hg] at hda
      · have hda' : a ∈ ds := by simpa [hg] using hda
        exact (Relation.TransGen.single hd).trans (h d ds (mem_of_getPair? hg) a hda')

theorem transGen_of_mem_ancestorsAlong {deps : String → List String} {order : List String}
    {id a : String} (h : a ∈ (getPair? id (ancestorsAlong deps order)).getD []) :
    Relation.TransGen (fun i d => d ∈ deps i) id a := by
  rcases hs : getPair? id (ancestorsAlong deps order) with _ | as
  · simp [hs] at h
  · exact traced_ancestorsAlong deps order id as (mem_of_getPair? hs) a (by simpa [hs] using h)

/-! ## Inputs -/

theorem id_of_mem_ancestorInstances {g : StageGraph} {id : String} {p : Instance}
    (hid : ∀ {id i}, g.instance? id = some i → i.id = id) (h : p ∈ g.ancestorInstances id) :
    p.id ∈ g.ancestorsOf id ∧ g.instance? p.id = some p := by
  obtain ⟨a, ha, hp⟩ := List.mem_filterMap.1 h
  rw [hid hp]
  exact ⟨ha, hp⟩

/-- A reference means the tag of the release, or what an ancestor declares under its key. -/
theorem resolve_cases {g : StageGraph} {i : Instance} {ref : OutputRef} {source : Source}
    (h : g.resolve i ref = .ok source) :
    (source = ⟨runScope, "release_tag"⟩ ∧ ref.key = "release_tag" ∧
        (ref.stage = some runScope ∨ ref.stage = none) ∧ g.isReleasing i = true) ∨
      ref.stage ≠ some runScope ∧
        ∃ p ∈ g.ancestorInstances i.id, source = ⟨p.id, ref.key⟩ ∧ ref.key ∈ p.template.outputs := by
  simp only [resolve] at h
  split at h
  · rename_i hscope
    split at h
    · cases h
    · rename_i hkey
      split at h
      · cases h
      · rename_i hrel
        cases h
        have hk : ref.key = "release_tag" := by simpa [runOutputs] using hkey
        have hstage : ref.stage = some runScope ∨ ref.stage = none := by
          simp only [Bool.or_eq_true, Bool.and_eq_true, decide_eq_true_eq] at hscope
          exact hscope.imp_right And.left
        exact Or.inl ⟨by rw [hk], hk, hstage, by simpa using hrel⟩
  · rename_i hscope
    split at h
    · cases h
    · rename_i p hp
      cases h
      have hmem : p ∈ (g.ancestorInstances i.id).filter (isCandidate i ref) := by simp [hp]
      obtain ⟨hin, hc⟩ := List.mem_filter.1 hmem
      simp only [isCandidate, Bool.and_eq_true, List.contains_iff_mem] at hc
      exact Or.inr ⟨fun hrun => hscope (by simp [hrun]), p, hin, rfl, hc.1.1.2⟩
    · cases h

/-- What a reference means is a source for the instance. -/
theorem feeds_of_resolve {g : StageGraph} {i : Instance} {ref : OutputRef} {source : Source}
    (h : g.resolve i ref = .ok source) : g.Feeds i source := by
  rcases resolve_cases h with ⟨hsource, _, _, hreleasing⟩ | ⟨_, p, hp, rfl, hkey⟩
  · exact Or.inl ⟨hsource, hreleasing⟩
  · exact Or.inr ⟨p, hp, rfl, hkey⟩

theorem feeds_of_resolveInputs {g : StageGraph} {i : Instance} {inputs : List (String × Source)}
    (h : g.resolveInputs i = .ok inputs) : ∀ p ∈ inputs, g.Feeds i p.2 := by
  have hfold : ∀ (raws : List String) (found : List (String × Source)),
      (∀ p ∈ found, g.Feeds i p.2) →
      raws.foldlM (fun found raw => do
        let ref ← parseRef raw i.id
        let source ← g.resolve i ref
        let name := if (getPair? ref.key found).isSome then ref.raw else ref.key
        return putPair name source found) found = Except.ok inputs →
      ∀ p ∈ inputs, g.Feeds i p.2 := by
    intro raws
    induction raws with
    | nil =>
      intro found hf h
      cases h
      exact hf
    | cons raw raws ih =>
      intro found hf h
      rw [List.foldlM_cons] at h
      rcases hr : parseRef raw i.id with e | ref
      · rw [hr] at h; cases h
      · rcases hs : g.resolve i ref with e | source
        · rw [hr] at h
          simp only [bind, Except.bind, hs] at h
          cases h
        · rw [hr] at h
          simp only [bind, Except.bind, hs, pure, Except.pure] at h
          refine ih _ ?_ h
          intro p hp
          rcases mem_putPair hp with rfl | hp
          · exact feeds_of_resolve hs
          · exact hf p hp
  exact hfold _ [] (by simp) h

/-- A traversal that did not fail returns what it returned for the members. -/
theorem mapM_spec {α β ε : Type} {f : α → Except ε β} {l : List α} {ys : List β}
    (h : l.mapM f = .ok ys) :
    (∀ y ∈ ys, ∃ x ∈ l, f x = .ok y) ∧ ∀ x ∈ l, ∃ y ∈ ys, f x = .ok y := by
  induction l generalizing ys with
  | nil =>
    cases h
    exact ⟨by simp, by simp⟩
  | cons x l ih =>
    rw [List.mapM_cons] at h
    rcases hx : f x with fault | y'
    · simp only [bind, Except.bind, hx] at h
      cases h
    simp only [bind, Except.bind, hx, pure, Except.pure] at h
    split at h
    · cases h
    · rename_i rest hrest
      cases h
      obtain ⟨hmade, hdone⟩ := ih hrest
      refine ⟨fun y hy => ?_, fun x' hx' => ?_⟩
      · rcases List.mem_cons.1 hy with rfl | hy
        · exact ⟨x, List.mem_cons_self, hx⟩
        · obtain ⟨x', hx', hone⟩ := hmade y hy
          exact ⟨x', List.mem_cons_of_mem _ hx', hone⟩
      · rcases List.mem_cons.1 hx' with rfl | hx'
        · exact ⟨y', List.mem_cons_self, hx⟩
        · obtain ⟨y, hy, hone⟩ := hdone x' hx'
          exact ⟨y, List.mem_cons_of_mem _ hy, hone⟩

/-- The reference that a condition makes when it reads an output of a stage. -/
def conditionRef (stage key : String) : OutputRef :=
  { raw := stage ++ "." ++ key, stage := some stage, key }

/-- The references of the condition are resolved, each and no others. -/
theorem resolveCondition_spec {g : StageGraph} {i : Instance}
    {producers : List ((String × String × String) × String)}
    (h : g.resolveCondition i = .ok producers) :
    (∀ id stage key p, ((id, stage, key), p) ∈ producers → id = i.id ∧
      ∃ text refs source, i.template.condition = some text ∧
        Condition.outputReferences text = .ok refs ∧ (stage, key) ∈ refs ∧
        g.resolve i (conditionRef stage key) = .ok source ∧ p = source.producer) ∧
    ∀ text refs stage key, i.template.condition = some text →
      Condition.outputReferences text = .ok refs → (stage, key) ∈ refs →
      ∃ p, ((i.id, stage, key), p) ∈ producers := by
  unfold resolveCondition at h
  split at h
  · rename_i hnone
    cases h
    simp [hnone]
  · rename_i text htext
    split at h
    · rename_i hblank
      cases h
      refine ⟨by simp, fun text' refs stage key htext' hrefs _ => ?_⟩
      -- the empty text is no condition that mentions anything
      rw [htext, Option.some.injEq] at htext'
      rw [← htext', hblank] at hrefs
      cases hrefs
    · split at h
      · cases h
      · rename_i refs hrefs
        obtain ⟨hmade, hdone⟩ := mapM_spec h
        refine ⟨fun id stage key p hq => ?_, fun text' refs' stage key htext' hrefs' hm => ?_⟩
        · obtain ⟨⟨stage', key'⟩, href, hone⟩ := hmade _ hq
          dsimp only at hone
          rcases hsource : g.resolve i (conditionRef stage' key') with fault | source
          · rw [conditionRef] at hsource
            simp only [bind, Except.bind, hsource] at hone
            cases hone
          · have hmeans := hsource
            rw [conditionRef] at hsource
            simp only [bind, Except.bind, hsource, pure, Except.pure] at hone
            cases hone
            exact ⟨rfl, text, refs, source, htext, hrefs, href, hmeans, rfl⟩
        · rw [htext, Option.some.injEq] at htext'
          rw [← htext', hrefs, Except.ok.injEq] at hrefs'
          obtain ⟨q, hq, hone⟩ := hdone (stage, key) (hrefs' ▸ hm)
          dsimp only at hone
          rcases hsource : g.resolve i { raw := stage ++ "." ++ key, stage := some stage, key }
            with fault | source
          · simp only [bind, Except.bind, hsource] at hone
            cases hone
          · simp only [bind, Except.bind, hsource, pure, Except.pure] at hone
            cases hone
            exact ⟨_, hq⟩

/-! ### One instance after the other -/

theorem ancestorInstances_congr {g g' : StageGraph} (hb : g'.byId = g.byId)
    (ha : g'.ancestors = g.ancestors) : g'.ancestorInstances = g.ancestorInstances := by
  funext id
  simp only [ancestorInstances, ancestorsOf, ha]
  congr 1
  funext id
  simp only [instance?, hb]

/-- What a reference means does not depend on what was resolved before. -/
theorem resolve_congr {g g' : StageGraph} (hb : g'.byId = g.byId)
    (ha : g'.ancestors = g.ancestors) : g'.resolve = g.resolve := by
  funext i ref
  unfold resolve isReleasing
  rw [ancestorInstances_congr hb ha]

theorem resolveInputs_congr {g g' : StageGraph} (hb : g'.byId = g.byId)
    (ha : g'.ancestors = g.ancestors) : g'.resolveInputs = g.resolveInputs := by
  funext i
  simp only [resolveInputs, resolve_congr hb ha]

theorem resolveCondition_congr {g g' : StageGraph} (hb : g'.byId = g.byId)
    (ha : g'.ancestors = g.ancestors) : g'.resolveCondition = g.resolveCondition := by
  funext i
  simp only [resolveCondition, resolve_congr hb ha]

/-- The references of these instances were resolved on top of what the graph had: the instances and
what depends on what are the same, and for each of them there is what its inputs and its condition
resolve to. -/
structure Resolved (g : StageGraph) (is : List Instance) (g' : StageGraph) : Prop where
  byId : g'.byId = g.byId
  direct : g'.direct = g.direct
  order : g'.order = g.order
  ancestors : g'.ancestors = g.ancestors
  keys : g'.inputs.map (·.1) = g.inputs.map (·.1) ++ is.map Instance.id
  inputs : ∀ e, e ∈ g'.inputs ↔
    e ∈ g.inputs ∨ ∃ i ∈ is, i.id = e.1 ∧ g.resolveInputs i = .ok e.2
  conditions : ∀ q, q ∈ g'.conditionProducers ↔ q ∈ g.conditionProducers ∨
    ∃ i ∈ is, ∃ producers, g.resolveCondition i = .ok producers ∧ q ∈ producers
  total : ∀ i ∈ is, ∃ inputs producers,
    g.resolveInputs i = .ok inputs ∧ g.resolveCondition i = .ok producers

theorem resolveAll_spec {is : List Instance} {g g' : StageGraph} (h : g.resolveAll is = .ok g') :
    Resolved g is g' := by
  induction is generalizing g with
  | nil =>
    cases h
    exact ⟨rfl, rfl, rfl, rfl, by simp, by simp, by simp, by simp⟩
  | cons i is ih =>
    simp only [resolveAll] at h
    rcases hi : g.resolveInputs i with e | inputs
    · rw [hi] at h; cases h
    rcases hc : g.resolveCondition i with e | producers
    · simp only [bind, Except.bind, hi, hc] at h; cases h
    simp only [bind, Except.bind, hi, hc] at h
    have hr := ih h
    -- the instances that follow are resolved as if this one had not been
    have hrest := @resolveInputs_congr g { g with
      inputs := g.inputs ++ [(i.id, inputs)]
      conditionProducers := g.conditionProducers ++ producers } rfl rfl
    have hrest' := @resolveCondition_congr g { g with
      inputs := g.inputs ++ [(i.id, inputs)]
      conditionProducers := g.conditionProducers ++ producers } rfl rfl
    refine ⟨hr.byId, hr.direct, hr.order, hr.ancestors, ?_, fun e => ?_, fun q => ?_, ?_⟩
    · rw [hr.keys, List.map_append, List.append_assoc]
      rfl
    · rw [hr.inputs, hrest]
      have hown : e = (i.id, inputs) ↔ i.id = e.1 ∧ inputs = e.2 := by
        rw [Prod.ext_iff, eq_comm, eq_comm (a := e.2)]
      simp only [List.mem_append, List.mem_cons, List.not_mem_nil, false_or, exists_eq_or_imp, hi,
        or_assoc, Except.ok.injEq, hown]
    · rw [hr.conditions, hrest']
      simp only [List.mem_append, List.mem_cons, exists_eq_or_imp, hc, or_assoc, Except.ok.injEq,
        exists_eq_left']
    · intro j hj
      rcases List.mem_cons.1 hj with rfl | hj
      · exact ⟨inputs, producers, hi, hc⟩
      · rw [← hrest, ← hrest']
        exact hr.total j hj

/-- A condition depends on those outputs only that it reads. -/
theorem conditionHolds_congr {g : StageGraph} {i : Instance} {trigger : Trigger}
    {o o' : String → String → Option Value}
    {release : Option (Except String (List (String × String)))}
    (h : ∀ stage key p, g.conditionProducer? i.id stage key = some p → o p key = o' p key) :
    g.conditionHolds i trigger (some o) release = g.conditionHolds i trigger (some o') release := by
  have hsame : (fun stage key => (g.conditionProducer? i.id stage key).bind fun p => o p key) =
      fun stage key => (g.conditionProducer? i.id stage key).bind fun p => o' p key := by
    funext stage key
    rcases hp : g.conditionProducer? i.id stage key with _ | p
    · rfl
    · exact h stage key p hp
  have hscope : g.conditionScope i trigger (some o) release =
      g.conditionScope i trigger (some o') release :=
    congrArg (fun found => ({ trigger, matrix := i.coordinates, outputs := some found, release } :
      Condition.Scope)) hsame
  rw [conditionHolds, hscope, conditionHolds]

/-! ## Every accepted graph -/

/-- What building has made of the instances: the order and the ancestors of the graph, and for each
instance all that its inputs and its condition resolve to. -/
structure Built (all : List Instance) (g : StageGraph) : Prop where
  distinct : (all.map Instance.id).Nodup
  byId : g.byId = named all
  direct : g.direct = directAmong (named all)
  order : g.order = Graph.topologicalOrder g.dependencies g.ids
  complete : g.order.length = g.ids.length
  ancestors : g.ancestors = ancestorsAlong g.dependencies g.order
  keys : g.inputs.map (·.1) = all.map Instance.id
  inputs : ∀ e, e ∈ g.inputs ↔ ∃ i ∈ all, i.id = e.1 ∧ g.resolveInputs i = .ok e.2
  conditions : ∀ q, q ∈ g.conditionProducers ↔
    ∃ i ∈ all, ∃ producers, g.resolveCondition i = .ok producers ∧ q ∈ producers
  total : ∀ i ∈ all, ∃ inputs producers,
    g.resolveInputs i = .ok inputs ∧ g.resolveCondition i = .ok producers

theorem build_spec {all : List Instance} {g : StageGraph} (h : build all = .ok g) :
    Built all g := by
  unfold build at h
  split at h
  · cases h
  rename_i hdup
  split at h
  · cases h
  simp only at h
  split at h
  case isFalse => cases h
  case isTrue hlen =>
    have hr := resolveAll_spec h
    have hdeps : g.dependencies = fun id => (getPair? id (directAmong (named all))).getD [] := by
      funext id; rw [dependencies, hr.direct]
    have hids : g.ids = (named all).map (·.1) := by rw [ids, hr.byId]
    refine ⟨duplicateId?_eq_none_iff.1 hdup, hr.byId, hr.direct, ?_, ?_, ?_, ?_, fun e => ?_,
      fun q => ?_, ?_⟩
    · rw [hr.order, hdeps, hids]
    · rw [hr.order, hids]
      exact hlen
    · rw [hr.ancestors, hdeps, hr.order]
    · simpa using hr.keys
    · rw [hr.inputs, resolveInputs_congr hr.byId hr.ancestors]
      simp
    · rw [hr.conditions, resolveCondition_congr hr.byId hr.ancestors]
      simp
    · rw [resolveInputs_congr hr.byId hr.ancestors, resolveCondition_congr hr.byId hr.ancestors]
      exact hr.total

/-- An instance is found under its identity and under no other. -/
theorem instance?_of_named {all : List Instance} {g : StageGraph} {i : Instance} {id : String}
    (distinct : (all.map Instance.id).Nodup) (hnamed : g.byId = named all) :
    g.instance? id = some i ↔ i ∈ all ∧ i.id = id := by
  have hnodup : (g.byId.map (·.1)).Nodup := by
    rw [hnamed, ids_named]
    exact distinct
  constructor
  · intro hi
    have hm := mem_of_getPair? hi
    rw [hnamed] at hm
    obtain ⟨j, hj, he⟩ := List.mem_map.1 hm
    cases he
    exact ⟨hj, rfl⟩
  · rintro ⟨hi, rfl⟩
    refine getPair?_of_mem hnodup ?_
    rw [hnamed]
    exact List.mem_map_of_mem (f := fun i => (i.id, i)) hi

section Built

variable {all : List Instance} {g : StageGraph} {i : Instance}

theorem Built.ids (h : Built all g) : g.ids = all.map Instance.id := by
  rw [StageGraph.ids, h.byId, ids_named]

theorem Built.instance?_iff (h : Built all g) {id : String} :
    g.instance? id = some i ↔ i ∈ all ∧ i.id = id := instance?_of_named h.distinct h.byId

/-- The inputs of an instance are what its references resolve to. -/
theorem Built.resolveInputs (h : Built all g) (hi : g.instance? i.id = some i) :
    getPair? i.id g.inputs = some (g.inputsOf i.id) ∧
      g.resolveInputs i = .ok (g.inputsOf i.id) := by
  obtain ⟨hmem, _⟩ := h.instance?_iff.1 hi
  obtain ⟨inputs, _, hinputs, _⟩ := h.total i hmem
  have hget : getPair? i.id g.inputs = some inputs :=
    getPair?_of_mem (h.keys ▸ h.distinct) ((h.inputs (i.id, inputs)).2 ⟨i, hmem, rfl, hinputs⟩)
  have hof : g.inputsOf i.id = inputs := by rw [inputsOf, hget]; rfl
  rw [hof]
  exact ⟨hget, hinputs⟩

/-- What the condition of an instance reads of a stage comes from where the reference resolves to. -/
theorem Built.conditionProducer? (h : Built all g) (hi : g.instance? i.id = some i)
    {stage key p : String} (hp : g.conditionProducer? i.id stage key = some p) :
    ∃ text refs source, i.template.condition = some text ∧
      Condition.outputReferences text = .ok refs ∧ (stage, key) ∈ refs ∧
      g.resolve i (conditionRef stage key) = .ok source ∧ p = source.producer := by
  obtain ⟨j, hj, producers, hc, hm⟩ := (h.conditions _).1 (mem_of_getPair? hp)
  obtain ⟨hid, hread⟩ := (resolveCondition_spec hc).1 _ _ _ _ hm
  have hsame := h.instance?_iff.2 ⟨hj, hid.symm⟩
  rw [hi] at hsame
  cases hsame
  exact hread

/-- And there is a producer for all that it reads. -/
theorem Built.exists_conditionProducer? (h : Built all g) (hi : g.instance? i.id = some i)
    {text : String} {refs : List (String × String)} (htext : i.template.condition = some text)
    (hrefs : Condition.outputReferences text = .ok refs) {stage key : String}
    (hm : (stage, key) ∈ refs) : ∃ source, g.resolve i (conditionRef stage key) = .ok source ∧
      g.conditionProducer? i.id stage key = some source.producer := by
  obtain ⟨hmem, _⟩ := h.instance?_iff.1 hi
  obtain ⟨_, producers, _, hc⟩ := h.total i hmem
  obtain ⟨p, hp⟩ := (resolveCondition_spec hc).2 text refs stage key htext hrefs hm
  obtain ⟨p', hp'⟩ := exists_getPair?_of_key_mem
    (List.mem_map_of_mem (f := (·.1)) ((h.conditions _).2 ⟨i, hmem, producers, hc, hp⟩))
  obtain ⟨_, _, source, _, _, _, hsource, rfl⟩ := h.conditionProducer? hi hp'
  exact ⟨source, hsource, hp'⟩

/-- A graph that was accepted is sound. -/
theorem Built.sound (h : Built all g) : g.Sound where
  ids_nodup := h.ids ▸ h.distinct
  order_perm := by
    have hcomplete := h.complete
    rw [h.order] at hcomplete ⊢
    exact Graph.topologicalOrder_perm hcomplete
  sorted := h.order ▸ Graph.topologicalOrder_sorted _ _
  instance_id := fun hi => (h.instance?_iff.1 hi).2
  dependencies_mem := by
    intro id d hmem
    rw [dependencies, h.direct] at hmem
    rcases hds : getPair? id (directAmong (named all)) with _ | ds
    · simp [hds] at hmem
    · rw [StageGraph.ids, h.byId]
      exact mem_directAmong hds (by simpa [hds] using hmem)
  ancestors := by
    intro id a hmem
    rw [ancestorsOf, h.ancestors] at hmem
    exact transGen_of_mem_ancestorsAlong hmem
  inputs := by
    intro id name source hmem
    rcases hin : getPair? id g.inputs with _ | inputs
    · simp [inputsOf, hin] at hmem
    · obtain ⟨i, hi, rfl, hr⟩ := (h.inputs _).1 (mem_of_getPair? hin)
      exact ⟨i, h.instance?_iff.2 ⟨hi, rfl⟩,
        feeds_of_resolveInputs hr (name, source) (by simpa [inputsOf, hin] using hmem)⟩
  conditions := by
    intro i stage key p hi hp
    obtain ⟨text, refs, source, htext, hrefs, hm, hsource, rfl⟩ := h.conditionProducer? hi hp
    refine ⟨⟨text, refs, htext, hrefs, hm⟩, ?_⟩
    rcases resolve_cases hsource with ⟨rfl, hkey, hstage, _⟩ | ⟨_, q, hq, rfl, hkey⟩
    · have hscope : stage = runScope := hstage.elim Option.some.inj fun he => (by cases he)
      exact Or.inl (by rw [hscope, show key = "release_tag" from hkey])
    · exact Or.inr ⟨q, hq, rfl, hkey⟩

end Built

theorem build_sound {all : List Instance} {g : StageGraph} (h : build all = .ok g) : g.Sound :=
  (build_spec h).sound

end GatedPipeline.StageGraph
