-- What the readers of the outputs see of an instance: what it declares, and
-- only once it has succeeded.
import GatedPipeline.Proofs.Run.DataFlow
import GatedPipeline.Proofs.Run.Stop
namespace GatedPipeline.Scheduler

variable {R : String → BodyReport → Prop} {s₀ s t e : Scheduler} {id : String} {i : Instance}

/-- The key is not that of the tag, which the run itself publishes. It leaves out this one pair, for
instances that are called as the run is; whether the tag is visible follows from the decision. -/
def OwnKey (id key : String) : Prop := id = runScope → key ≠ "release_tag"

/-- Unless a run is aborted, nothing is visible of an instance that has not succeeded, and nothing
that it does not declare; and the tag is written just when it is visible. -/
structure Bare (s : Scheduler) : Prop where
  hidden : s.fatal = false → ∀ i, s.graph.instance? i.id = some i → ∀ k, OwnKey i.id k →
    s.state i.id ≠ .succeeded ∨ k ∉ i.template.outputs → s.run.outputs.peek? i.id k = none
  sealed : s.fatal = false → (runScope, "release_tag") ∈ s.run.outputs.written →
    s.tag?.isSome = true

theorem Shows.peek? {settled : Option ReleaseOutcome} {o o' : OutputStore}
    (h : Shows settled o o') {k : String} (hk : OwnKey id k) : o'.peek? id k = o.peek? id k := by
  by_cases hid : id = runScope
  · rw [hid]
    exact h.scope k (hk hid)
  · rw [OutputStore.peek?, h.published _ hid, OutputStore.peek?]

/-- A change that publishes nothing of an instance. -/
theorem Bare.shows (h : Bare s) (hl : Logs s t)
    (ho : t.fatal = false → Shows t.decision? s.run.outputs t.run.outputs) : Bare t where
  hidden := by
    intro ht i hi k hk hcase
    rw [show t.graph = s.graph from hl.steady.graph] at hi
    rw [(ho ht).peek? hk]
    exact h.hidden (hl.steady.unaborted ht) i hi k hk (hcase.imp_left fun hne hs =>
      hne (hl.succeeded hs))
  sealed := by
    intro ht hw
    rcases (ho ht).written hw with hw | hsome
    · exact (ho ht).tag_isSome (h.sealed (hl.steady.unaborted ht) hw)
    · exact hsome

theorem Bare.wane (h : Bare s) (hw : Wane s t) : Bare t := by
  refine h.shows hw.logs ?_
  rcases hw with ha | hl
  · exact fun _ => ha.outputs
  · exact hl.outputs

/-- What is visible of an instance that succeeds is what it has staged. -/
theorem peek?_of_staged {report : BodyReport} {o o' : OutputStore}
    (hempty : ∀ q, o.stagedOf q = []) (wrote : stageOutputs i o report.outputs = (o', none))
    (all : ∀ k ∈ i.template.outputs, (getPair? k (o'.stagedOf i.id)).isSome = true) {k : String}
    (hnone : o.peek? i.id k = none) :
    (o'.commit i.id).peek? i.id k = getPair? k (o'.stagedOf i.id) := by
  have hnodup := @nodup_stagedOf_stageOutputs i o report.outputs
    (by rw [hempty]; exact List.nodup_nil)
  rw [wrote] at hnodup
  have hsame : o'.peek? i.id k = none := by
    by_cases hrun : i.id = runScope
    · obtain rfl := unwritten_of_run hempty wrote all hrun
      exact hnone
    · have hpublished := @publishedOf_stageOutputs i o report.outputs i.id (Or.inr hrun)
      rw [wrote] at hpublished
      rw [OutputStore.peek?, hpublished]
      exact hnone
  rw [OutputStore.peek?_commit_self hnodup, hsame, Option.or_none]

theorem Bare.succeed {report : BodyReport} {o : OutputStore} (h : Bare s) (hflows : Flows R s)
    (hl : Logs s (s.complete i.id report)) (hi : s.graph.instance? i.id = some i)
    (was : s.state i.id = .running) (good : report.status = .succeeded)
    (wrote : stageOutputs i s.run.outputs report.outputs = (o, none))
    (all : ∀ k ∈ i.template.outputs, (getPair? k (o.stagedOf i.id)).isSome = true) :
    Bare (s.complete i.id report) := by
  have he := complete_of_success hi was good wrote all
  have hout : (s.complete i.id report).run.outputs = o.commit i.id := by rw [he]
  constructor
  · intro ht j hj k hk hcase
    have hgoing := hl.steady.unaborted ht
    rw [show (s.complete i.id report).graph = s.graph from hl.steady.graph] at hj
    rw [hout]
    by_cases hid : j.id = i.id
    · obtain rfl := instance_unique hj hi hid
      have hundeclared : k ∉ j.template.outputs := by
        refine hcase.resolve_left (not_not.2 ?_)
        rw [he, state_putPair _ _ rfl, if_pos rfl]
        rfl
      have hnone := h.hidden hgoing j hi k hk (Or.inl (by rw [was]; simp))
      rw [peek?_of_staged (hflows.staged hgoing) wrote all hnone]
      have hstaged := @getPair?_stagedOf_undeclared j s.run.outputs report.outputs k hundeclared
      rw [wrote, hflows.staged hgoing] at hstaged
      exact hstaged
    · rw [OutputStore.peek?, publishedOf_of_success hid wrote]
      refine h.hidden hgoing j hj k hk (hcase.imp_left fun hne => ?_)
      rwa [he, state_putPair _ _ rfl, if_neg hid] at hne
  · intro ht hw
    have hgoing := hl.steady.unaborted ht
    rw [tag?, hout, tag_of_success (hflows.staged hgoing) wrote all]
    rw [hout] at hw
    refine h.sealed hgoing ?_
    by_cases hrun : runScope = i.id
    · rwa [unwritten_of_run (hflows.staged hgoing) wrote all hrun.symm] at hw
    · refine @mem_written_stageOutputs i _ report.outputs _ _ ?_ hrun
      rw [wrote]
      exact hw

theorem Bare.rise (hf : Framed s) (hflows : Flows R s) (h : Bare s) (hr : Rise e s t) : Bare t := by
  have hlogs := hr.logs hf
  rcases hr.outputs_or_success with
    ⟨hsame, _⟩ | ⟨i, report, _, o, known, _, good, was, wrote, all, rfl⟩
  · refine h.shows hlogs fun _ => ?_
    rw [hsame]
    exact shows_refl _ _
  · exact h.succeed hflows hlogs known was good wrote all

/-! ## The release decision -/

/-- If the tag was written only where it is visible, the release decision is the answer of the engine:
the tag can be published. -/
theorem decideRelease_of_sealed
    (hw : (runScope, "release_tag") ∈ s.run.outputs.written → s.tag?.isSome = true)
    {engine : ReleaseEngine} (he : s.engine = some engine) :
    s.decideRelease.1 = match engine.decide.1 with
      | .ok o => .ok o
      | .error fault => .error (.source fault) := by
  unfold decideRelease
  rw [he]
  dsimp only
  rcases engine.decide with ⟨fault | o, engine'⟩
  · rfl
  · obtain ⟨notes, _, hwrite⟩ := write_decision s engine engine' o
    dsimp only
    rw [hwrite]
    split
    · rename_i hcond
      simp only [Bool.and_eq_true, Option.isNone_iff_eq_none] at hcond
      -- the tag is not visible, so it was never written
      have hfresh : (runScope, "release_tag") ∉ s.run.outputs.written := by
        intro hm
        have hsome := hw hm
        rw [tag?, hcond.2] at hsome
        cases hsome
      obtain ⟨o', ho'⟩ := OutputStore.write_of_unwritten hfresh (Or.inr rfl) (.text o.tag)
      rw [show OutputStore.write _ runScope "release_tag" (.text o.tag) = .ok o' from ho']
    · rfl

/-- Unless a run is aborted, its release decision is the answer of its engine. -/
theorem Bare.decideRelease_eq (hb : Bare s) (ht : s.fatal = false) {engine : ReleaseEngine}
    (he : s.engine = some engine) :
    s.decideRelease.1 = match engine.decide.1 with
      | .ok o => .ok o
      | .error fault => .error (.source fault) :=
  decideRelease_of_sealed (hb.sealed ht) he

/-- A decision that was made is the answer whenever it is asked for again. -/
theorem Bare.decideRelease_of_decided (hb : Bare s) (ht : s.fatal = false) {o : ReleaseOutcome}
    (ho : s.decision? = some o) : s.decideRelease.1 = .ok o := by
  obtain ⟨engine, he, hengine⟩ := Option.bind_eq_some_iff.1 ho
  rw [hb.decideRelease_eq ht he, ReleaseEngine.decide_of_outcome hengine]

/-! ## Along a run -/

/-- Along a run that starts with some successes it is still so, whatever the bodies report. -/
theorem Leads.bare_of_rooted (h₀ : Poised s₀) (hr₀ : Rooted s₀)
    (hf₀ : Flows (fun _ _ => True) s₀) (hb₀ : Bare s₀) (h : Leads s₀ s) : Bare s := by
  refine (h.keeps (P := fun v => (Rooted v ∧ Flows (fun _ _ => True) v) ∧ Bare v) h₀.framed h₀.keyed
    ⟨⟨hr₀, hf₀⟩, hb₀⟩ (fun _ _ _ hu hw => ⟨⟨hu.1.1.wane hw, hu.1.2.wane hw⟩, hu.2.wane hw⟩)
    fun _ _ _ hf hu hr => ?_).2
  exact ⟨⟨hu.1.1.rise hf hr, hu.1.2.rise hf hu.1.1 hr fun _ _ _ _ _ _ _ => trivial⟩,
    hu.2.rise hf hu.1.2 hr⟩

/-! ## Before the first step -/

/-- A fresh run of which nothing is visible yet. -/
structure Blank (s : Scheduler) : Prop extends Fresh s where
  bare : Bare s

theorem Bare.lend (h : Bare s) {table : GateTable Nat} (now : Time) :
    Bare { s with gates := table, now } :=
  ⟨h.hidden, h.sealed⟩

theorem Blank.lend (h : Blank s) {table : GateTable Nat} (hk : table.Keyed) (now : Time) :
    Blank { s with gates := table, now } :=
  ⟨h.toFresh.lend hk now, h.bare.lend now⟩

/-- Nothing is visible of a run that is started. -/
theorem blank_prepareStart {o o' : Orchestrator} {w : Workflow} {t : Trigger}
    {source : Option VersionSource} {runId group : String} {key : Nat} {now : Time}
    (h : o.prepareStart w t source runId key now = (o', .ready s group)) : Blank s := by
  refine ⟨Orchestrator.fresh_prepareStart h, ?_⟩
  obtain ⟨g, _, rfl, _⟩ := Orchestrator.prepareStart_ready h
  exact ⟨fun _ _ _ _ _ _ => rfl, fun _ hm => by cases hm⟩

end GatedPipeline.Scheduler
