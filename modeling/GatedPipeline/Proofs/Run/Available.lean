-- What the conditions read. When the scheduler looks at the condition of an
-- instance, all that the instance depends on has succeeded, so each output that
-- the condition mentions is published. Only the tag of a release that the
-- instance itself decides on may not be there yet.
import GatedPipeline.Proofs.Run.Decision
import GatedPipeline.Proofs.Condition.Output
namespace GatedPipeline

/-- The condition of the instance mentions the output of a stage. -/
def Instance.Mentions (i : Instance) (stage key : String) : Prop :=
  ∃ text refs, i.template.condition = some text ∧
    Condition.outputReferences text = .ok refs ∧ (stage, key) ∈ refs

/-- The tag of a release that is the instance's own: none that it comes after releases. -/
def StageGraph.OwnTag (g : StageGraph) (i : Instance) (stage key : String) : Prop :=
  stage = runScope ∧ key = "release_tag" ∧ i.template.release = true ∧
    ∀ p ∈ g.ancestorInstances i.id, p.template.release = false

namespace Scheduler

variable {R : String → BodyReport → Prop} {s₀ s t : Scheduler} {i : Instance}
  {all : List Instance} {stage key : String}

/-! ## When a condition is looked at -/

/-- The body of the instance has not been started, and all that it depends on has succeeded. The
scheduler looks at conditions of such instances only, on its way and when it is asked what is
ready. -/
structure Due (s : Scheduler) (i : Instance) : Prop where
  known : s.graph.instance? i.id = some i
  waiting : (s.state i.id).isWaiting = true
  satisfied : s.graph.dependencyStatus i.id s.state = .satisfied

theorem Due.succeeded (h : Due s i) : ∀ d ∈ s.graph.dependencies i.id, s.state d = .succeeded :=
  succeeded_of_satisfied h.satisfied

/-- In a run that was stopped nothing is due any more. -/
theorem Due.unaborted (h₀ : Poised s₀) (h : Leads s₀ s) (hdue : Due s i) : s.fatal = false := by
  obtain ⟨hf, _⟩ := h.framed h₀.framed h₀.keyed
  rcases hfatal : s.fatal with _ | _
  · rfl
  · have hended := h.allEnded h₀ (Or.inl hfatal) i.id
      (hf.order_of_present (hf.present hdue.known))
    have hwaiting := State.not_isTerminal_of_isWaiting hdue.waiting
    rw [hended] at hwaiting
    cases hwaiting

/-! ## What is there -/

/-- What the condition of a due instance mentions has a producer, and is published; but its own tag
is one of the run, and may not be there. -/
theorem Flows.available (hf : Framed s) (hg : Rooted s) (h : Flows R s) (going : s.fatal = false)
    (hb : StageGraph.build all = .ok s.graph) (hdue : Due s i) (hm : i.Mentions stage key) :
    ∃ producer, s.graph.conditionProducer? i.id stage key = some producer ∧
      ((s.graph.OwnTag i stage key ∧ producer = runScope) ∨ (¬ s.graph.OwnTag i stage key ∧
        ∃ v, s.run.outputs.peek? producer key = some v ∧ Delivers R s ⟨producer, key⟩ v)) := by
  obtain ⟨text, refs, htext, hrefs, hm⟩ := hm
  obtain ⟨source, hsource, hproducer⟩ :=
    (StageGraph.build_spec hb).exists_conditionProducer? hdue.known htext hrefs hm
  have hsucceeded := hg.ancestors hf hdue.succeeded
  refine ⟨source.producer, hproducer, ?_⟩
  rcases StageGraph.resolve_cases hsource with
    ⟨rfl, hkey, hstage, hreleasing⟩ | ⟨hrun, p, hp, rfl, hk⟩
  · obtain rfl : key = "release_tag" := hkey
    obtain rfl : stage = runScope := hstage.elim Option.some.inj fun he => (by cases he)
    by_cases hany : ∃ p ∈ s.graph.ancestorInstances i.id, p.template.release = true
    · -- an ancestor has waited for the tag
      obtain ⟨p, hp, hr⟩ := hany
      refine Or.inr ⟨fun hown => ?_,
        h.delivers_tag going (h.tag_of_ancestor hf going hsucceeded hp hr)⟩
      obtain ⟨_, _, _, hnone⟩ := hown
      rw [hnone p hp] at hr
      cases hr
    · have hnone : ∀ p ∈ s.graph.ancestorInstances i.id, p.template.release = false :=
        fun p hp => Bool.eq_false_iff.2 fun hr => hany ⟨p, hp, hr⟩
      have hown : i.template.release = true := by
        refine (Bool.or_eq_true_iff.1 hreleasing).resolve_right fun hreleases => ?_
        exact hany (List.any_eq_true.1 hreleases)
      exact Or.inl ⟨⟨rfl, rfl, hown, hnone⟩, rfl⟩
  · exact Or.inr ⟨fun hown => hrun (congrArg some hown.1),
      h.declared_of_ancestor hf going hsucceeded hp hk⟩

/-- Asking for the release decision takes away nothing that readers see. -/
theorem Flows.kept (h : Flows R s) (h' : Flows R t) (ha : Aside s t) (going : t.fatal = false)
    {p k : String} {v : Value} (hv : s.run.outputs.peek? p k = some v) :
    t.run.outputs.peek? p k = some v := by
  by_cases htag : p = runScope ∧ k = "release_tag"
  · obtain ⟨rfl, rfl⟩ := htag
    have hsome : (t.run.outputs.peek? runScope "release_tag").isSome = true :=
      ha.outputs.tag_isSome (by rw [hv]; rfl)
    obtain ⟨w, hw⟩ := Option.isSome_iff_exists.1 hsome
    obtain ⟨o, ho, _, rfl⟩ := h.tag (ha.toSteady.unaborted going) v hv
    obtain ⟨o', ho', _, rfl⟩ := h'.tag going w hw
    rw [ha.toSteady.decision ho] at ho'
    cases ho'
    exact hw
  · rw [ha.peek?_eq fun hp hk => htag ⟨hp, hk⟩]
    exact hv

/-- A condition whose outputs are all published comes to what it comes to with any more of them. -/
theorem conditionHolds_of_published {find : String → String → Option Value}
    (hkept : ∀ p k v, s.run.outputs.peek? p k = some v →
      s.releaseFacts.2.run.outputs.peek? p k = some v)
    (hpublished : ∀ stage key p, s.graph.conditionProducer? i.id stage key = some p →
      ∃ v, s.run.outputs.peek? p key = some v)
    (hfind : ∀ p k v, s.run.outputs.peek? p k = some v → find p k = some v) :
    (s.conditionHolds i).1 = (s.graph.conditionHolds i s.run.trigger (some find)
      (some s.releaseFacts.1)).holds := by
  have ha := asks_releaseFacts s
  have hsame : ∀ {look : String → String → Option Value},
      (∀ p k v, s.run.outputs.peek? p k = some v → look p k = some v) →
      s.graph.conditionHolds i s.run.trigger (some look) (some s.releaseFacts.1) =
        s.graph.conditionHolds i s.run.trigger (some find) (some s.releaseFacts.1) := by
    intro look hlook
    refine StageGraph.conditionHolds_congr fun stage key p hp => ?_
    obtain ⟨v, hv⟩ := hpublished stage key p hp
    rw [hlook p key v hv, hfind p key v hv]
  unfold conditionHolds
  dsimp only
  split
  · rw [show s.releaseFacts.2.graph = s.graph from ha.graph,
      show s.releaseFacts.2.run.trigger = s.run.trigger from ha.trigger]
    exact congrArg Condition.Verdict.holds (hsame hkept)
  · exact congrArg Condition.Verdict.holds (hsame fun _ _ _ hv => hv)

/-! ## The law -/

/-- Whenever the condition of an instance is looked at, each output of a stage that it mentions is
published, with the value that its producer reported; and whether it holds does not depend on what
else will be published. Only the tag of a release that the instance itself decides on is not there
before the decision. -/
theorem a_condition_waits_for_all_it_mentions_but_its_own_tag
    (hb : StageGraph.build all = .ok s₀.graph) (h₀ : Fresh s₀) (h : Leads s₀ s) (hdue : Due s i) :
    (∀ stage key, i.Mentions stage key → ¬ s.graph.OwnTag i stage key →
      ∃ producer v, s.graph.conditionProducer? i.id stage key = some producer ∧
        s.run.outputs.peek? producer key = some v ∧
        Delivers (Reported s₀ s) s ⟨producer, key⟩ v) ∧
    (∀ stage key, i.Mentions stage key → s.graph.OwnTag i stage key →
      s.graph.conditionProducer? i.id stage key = some runScope ∧
        (s.decision? = none → s.run.outputs.peek? runScope key = none)) ∧
    ((∀ stage key, i.Mentions stage key → ¬ s.graph.OwnTag i stage key) →
      ∀ find, (∀ p k v, s.run.outputs.peek? p k = some v → find p k = some v) →
        (s.conditionHolds i).1 = (s.graph.conditionHolds i s.run.trigger (some find)
          (some s.releaseFacts.1)).holds) := by
  have hflows := h.flows h₀
  obtain ⟨hf, hk⟩ := h.framed h₀.framed h₀.keyed
  have hrooted := (h.guarded h₀).2.rooted
  have going := hdue.unaborted h₀.toPoised h
  have hgraph : s.graph = s₀.graph := (h.steady h₀.framed h₀.keyed).graph
  rw [← hgraph] at hb
  have havailable := fun {stage key} (hm : i.Mentions stage key) =>
    hflows.available hf hrooted going hb hdue hm
  refine ⟨fun stage key hm hnot => ?_, fun stage key hm hown => ?_, fun hnone find hfind => ?_⟩
  · obtain ⟨producer, hproducer, hcase⟩ := havailable hm
    obtain ⟨_, v, hv, hdelivers⟩ := hcase.resolve_left fun hown => hnot hown.1
    exact ⟨producer, v, hproducer, hv, hdelivers⟩
  · obtain ⟨producer, hproducer, hcase⟩ := havailable hm
    obtain ⟨_, rfl⟩ := hcase.resolve_right fun hnot => hnot.1 hown
    refine ⟨hproducer, fun hundecided => ?_⟩
    obtain ⟨rfl, rfl, _⟩ := hown
    rcases htag : s.run.outputs.peek? runScope "release_tag" with _ | v
    · rfl
    · obtain ⟨o, ho, _⟩ := hflows.tag going v htag
      rw [hundecided] at ho
      cases ho
  · have ha := asks_releaseFacts s
    refine conditionHolds_of_published (fun p k v hv => ?_) (fun stage key p hp => ?_) hfind
    · exact hflows.kept (hflows.wane (.aside ha.toAside)) ha.toAside
        ((fatal_of_flags ha.flags).trans going) hv
    · obtain ⟨hm, _⟩ := hf.sound.conditions hdue.known hp
      obtain ⟨producer, hproducer, hcase⟩ := havailable hm
      rw [hp] at hproducer
      cases hproducer
      obtain ⟨_, v, hv, _⟩ := hcase.resolve_left fun hown => hnone stage key hm hown.1
      exact ⟨v, hv⟩

/-! ## A notice and a release -/

def noticeBuild : Instance where
  template := { name := "build", outputs := ["image"] }

/-- Tells of the image. -/
def notify : Instance where
  template := {
    name := "notify", needs := ["build"]
    condition := some ("outputs." ++ "build" ++ "." ++ "image") }

/-- A release that waits for its own tag. -/
def publish : Instance where
  template := {
    name := "publish", needs := ["build"], release := true
    condition := some ("outputs." ++ runScope ++ "." ++ "release_tag") }

def noticeStages : List Instance := [noticeBuild, notify, publish]

/-- Their graph before any reference is resolved. -/
def noticeBase : StageGraph where
  byId := StageGraph.named noticeStages
  direct := StageGraph.directAmong (StageGraph.named noticeStages)
  order := ["build", "notify", "publish"]
  ancestors := [("build", []), ("notify", ["build"]), ("publish", ["build"])]

def noticeGraph : StageGraph :=
  { noticeBase with
    inputs := [("build", []), ("notify", []), ("publish", [])]
    conditionProducers := [
      (("notify", "build", "image"), "build"), (("publish", runScope, "release_tag"), runScope)] }

theorem build_noticeStages : StageGraph.build noticeStages = .ok noticeGraph := by
  have hdup : StageGraph.duplicateId? noticeStages = none := by decide +kernel
  have hneeds : StageGraph.unknownNeed? noticeStages = none :=
    Option.isNone_iff_eq_none.1 (by decide +kernel)
  have horder : Graph.topologicalOrder
      (fun id => (getPair? id (StageGraph.directAmong (StageGraph.named noticeStages))).getD [])
      ((StageGraph.named noticeStages).map (·.1)) = noticeBase.order := by decide +kernel
  have hancestors : StageGraph.ancestorsAlong
      (fun id => (getPair? id (StageGraph.directAmong (StageGraph.named noticeStages))).getD [])
      noticeBase.order = noticeBase.ancestors := by decide +kernel
  have hbase : StageGraph.build noticeStages = noticeBase.resolveAll noticeStages := by
    unfold StageGraph.build
    rw [hdup, hneeds]
    dsimp only
    rw [horder, hancestors]
    rfl
  have hnotify : ∀ inputs producers, StageGraph.resolveCondition
      { noticeBase with inputs, conditionProducers := producers } notify =
      .ok [(("notify", "build", "image"), "build")] := fun _ _ =>
    StageGraph.resolveCondition_output (by decide) (by decide) rfl
      (show _ = Except.ok (Source.mk "build" "image") from rfl)
  have hpublish : ∀ inputs producers, StageGraph.resolveCondition
      { noticeBase with inputs, conditionProducers := producers } publish =
      .ok [(("publish", runScope, "release_tag"), runScope)] := fun _ _ =>
    StageGraph.resolveCondition_output (by decide) (by decide) rfl
      (show _ = Except.ok (Source.mk runScope "release_tag") from rfl)
  rw [hbase]
  simp only [noticeStages, StageGraph.resolveAll, hnotify, hpublish]
  rfl

/-- A run of them, in which version 1.2.0 is to be released. -/
def noticeStart : Scheduler where
  run := Run.new "r1" {} "notice" noticeGraph 0
  now := 0
  self := 0
  engine := some { source := .fixed "1.2.0" none }

/-- The body of the build has written the image. -/
def noticeBuilt : Scheduler := (noticeStart.begin.endBody "build" .default).2

/-- The scheduler has heard of it. -/
def noticeTold : Scheduler :=
  match noticeBuilt.queue with
  | [] => noticeBuilt
  | e :: rest => { noticeBuilt with queue := rest }.handle e

theorem fresh_noticeStart : Fresh noticeStart :=
  Orchestrator.fresh_new ⟨noticeStages, build_noticeStages⟩ noticeStart rfl

theorem leads_noticeTold : Leads noticeStart noticeTold := by
  have hbuilt : Leads noticeStart noticeBuilt := (leads_begin _).trans (leads_endBody _ _ _)
  unfold noticeTold
  split
  · exact hbuilt
  · rename_i hqueue
    exact hbuilt.snoc (.take hqueue)

theorem due_notify : Due noticeTold notify :=
  ⟨by rfl, by decide +kernel, by decide +kernel⟩

theorem due_publish : Due noticeTold publish :=
  ⟨by rfl, by decide +kernel, by decide +kernel⟩

theorem mentions_image : notify.Mentions "build" "image" :=
  ⟨_, _, rfl, Condition.outputReferences_output (by decide) (by decide),
    List.mem_singleton_self _⟩

theorem mentions_tag : publish.Mentions runScope "release_tag" :=
  ⟨_, _, rfl, Condition.outputReferences_output (by decide) (by decide),
    List.mem_singleton_self _⟩

/-- The condition of the notice finds the image, and that of the release does not find the tag. -/
theorem the_notice_finds_the_image :
    StageGraph.build noticeStages = .ok noticeStart.graph ∧ Fresh noticeStart ∧
      Leads noticeStart noticeTold ∧ Due noticeTold notify ∧ Due noticeTold publish ∧
      (∃ v, noticeTold.run.outputs.peek? "build" "image" = some v ∧
        Delivers (Reported noticeStart noticeTold) noticeTold ⟨"build", "image"⟩ v) ∧
      noticeTold.run.outputs.peek? runScope "release_tag" = none := by
  obtain ⟨hpublished, _, _⟩ := a_condition_waits_for_all_it_mentions_but_its_own_tag
    build_noticeStages fresh_noticeStart leads_noticeTold due_notify
  obtain ⟨_, hown, _⟩ := a_condition_waits_for_all_it_mentions_but_its_own_tag
    build_noticeStages fresh_noticeStart leads_noticeTold due_publish
  obtain ⟨producer, v, hproducer, hv, hdelivers⟩ :=
    hpublished "build" "image" mentions_image fun htag => absurd htag.1 (by decide)
  obtain rfl : producer = "build" := by
    have hsame : noticeTold.graph.conditionProducer? notify.id "build" "image" =
        some "build" := by decide +kernel
    exact Option.some.inj (hproducer.symm.trans hsame)
  have htag : noticeTold.graph.OwnTag publish runScope "release_tag" :=
    ⟨rfl, rfl, rfl, by decide +kernel⟩
  exact ⟨build_noticeStages, fresh_noticeStart, leads_noticeTold, due_notify, due_publish,
    ⟨v, hv, hdelivers⟩, (hown runScope "release_tag" mentions_tag htag).2 (by decide +kernel)⟩

/-- The condition of the release holds just if the tag is there and not empty. -/
theorem conditionHolds_publish
    (h : s.graph.conditionProducer? publish.id runScope "release_tag" = some runScope) :
    s.conditionHolds publish =
      (.ok ((s.run.outputs.peek? runScope "release_tag").any Value.truthy), s) := by
  have hverdict : ∀ release, s.graph.conditionHolds publish s.run.trigger
      (some s.run.outputs.peek?) release =
      { holds := .ok ((s.run.outputs.peek? runScope "release_tag").any Value.truthy) } := by
    intro release
    refine (Condition.evaluate_output (by decide) (by decide) _).trans ?_
    simp [StageGraph.conditionScope, h]
  unfold conditionHolds
  simp only [hverdict]
  rfl

/-- So the release is skipped, although its condition would hold just after the decision. -/
theorem a_release_that_waits_for_its_own_tag_is_skipped :
    StageGraph.build noticeStages = .ok noticeStart.graph ∧ Fresh noticeStart ∧
      Leads noticeStart noticeTold ∧ Due noticeTold publish ∧
      publish.Mentions runScope "release_tag" ∧
      noticeTold.graph.conditionProducer? publish.id runScope "release_tag" = some runScope ∧
      noticeTold.run.outputs.peek? runScope "release_tag" = none ∧
      (noticeTold.visit "publish").2.state "publish" = .skipped ∧
      (noticeTold.decideRelease.2.conditionHolds publish).1 = .ok true := by
  have hproducer : noticeTold.graph.conditionProducer? publish.id runScope "release_tag" =
      some runScope := by decide +kernel
  have hnone : noticeTold.run.outputs.peek? runScope "release_tag" = none := by decide +kernel
  have hdecided : (noticeTold.decideRelease.2.run.outputs.peek? runScope "release_tag").any
      Value.truthy = true := by decide +kernel
  have hafter : noticeTold.decideRelease.2.graph = noticeTold.graph := (asks_decide _).graph
  have hskipped : (noticeTold.visit "publish").2 =
      noticeTold.move "publish" .skipped "condition not met" := by
    have hcondition := conditionHolds_publish hproducer
    rw [hnone] at hcondition
    have hvisit : (noticeTold.visit publish.id).2 = noticeTold.unlock publish :=
      Unlocks.visit ⟨due_publish.known, Or.inr (by decide +kernel), due_publish.satisfied⟩
    rw [show "publish" = publish.id from rfl, hvisit]
    unfold unlock
    rw [hcondition]
    rfl
  refine ⟨build_noticeStages, fresh_noticeStart, leads_noticeTold, due_publish, mentions_tag,
    hproducer, hnone, ?_, ?_⟩
  · rw [hskipped]
    decide +kernel
  · rw [conditionHolds_publish (by rw [hafter]; exact hproducer), hdecided]

end Scheduler

end GatedPipeline
