-- Where the inputs of a body come from. What a producer has reported is
-- published when it succeeds and stays so, and the tag of a release is there
-- before anything that reads it is let go on; so no input is ever missing.
import GatedPipeline.Proofs.Run.Dispatch
namespace GatedPipeline.Scheduler

variable {R R' : String → BodyReport → Prop} {s₀ s t u e : Scheduler} {id : String} {i : Instance}

/-! ## What the readers of the outputs see -/

/-- The value is what the source stands for: the tag of the release that was decided on, or the
text of what the producer reported under the key. -/
def Delivers (R : String → BodyReport → Prop) (s : Scheduler) (source : Source) (v : Value) :
    Prop :=
  (source = ⟨runScope, "release_tag"⟩ ∧
      ∃ o, s.decision? = some o ∧ o.decision = .release ∧ v = .text o.tag) ∨
    source.producer ≠ runScope ∧ ∃ report w, R source.producer report ∧
      getPair? source.key report.outputs = some w ∧ v = .text w.shown

/-- Unless a run is aborted, nothing stays staged, each declared output of an instance that has
succeeded is published as it was reported, and the tag is that of the release. Whatever body was
started got its inputs from there. The reports of the instances that have succeeded are given. -/
structure Flows (R : String → BodyReport → Prop) (s : Scheduler) : Prop where
  staged : s.fatal = false → ∀ q, s.run.outputs.stagedOf q = []
  published : s.fatal = false → ∀ i, s.graph.instance? i.id = some i →
    s.state i.id = .succeeded → ∀ k ∈ i.template.outputs, i.id ≠ runScope ∧
      ∃ report w, R i.id report ∧ getPair? k report.outputs = some w ∧
        s.run.outputs.peek? i.id k = some (.text w.shown)
  tag : s.fatal = false → ∀ v, s.tag? = some v →
    ∃ o, s.decision? = some o ∧ o.decision = .release ∧ v = .text o.tag
  released : s.fatal = false → ∀ i, s.graph.instance? i.id = some i →
    (s.state i.id).isCleared = true → i.template.release = true → s.tag?.isSome = true
  fed : ∀ id inputs, .dispatched id inputs ∈ s.effects →
    List.Forall₂ (fun p q => q.1 = p.1 ∧ Delivers R s p.2 q.2) (s.graph.inputsOf id) inputs

theorem Delivers.mono {source : Source} {v : Value} (h : Delivers R s source v)
    (hR : ∀ p report, R p report → R' p report)
    (hd : ∀ o, s.decision? = some o → t.decision? = some o) : Delivers R' t source v := by
  rcases h with ⟨hsource, o, ho, hr, hv⟩ | ⟨hrun, report, w, hreport, hw, hv⟩
  · exact Or.inl ⟨hsource, o, hd o ho, hr, hv⟩
  · exact Or.inr ⟨hrun, report, w, hR _ _ hreport, hw, hv⟩

theorem Flows.mono (h : Flows R s) (hR : ∀ p report, R p report → R' p report) : Flows R' s where
  staged := h.staged
  published := by
    intro hg i hi hs k hk
    obtain ⟨hrun, report, w, hreport, hw, hp⟩ := h.published hg i hi hs k hk
    exact ⟨hrun, report, w, hR _ _ hreport, hw, hp⟩
  tag := h.tag
  released := h.released
  fed := by
    intro id inputs hm
    refine (h.fed id inputs hm).imp ?_
    rintro _ _ ⟨hn, hv⟩
    exact ⟨hn, hv.mono hR fun _ ho => ho⟩

theorem Fresh.flows (h : Fresh s) : Flows R s where
  staged := fun _ => h.staged
  published := by
    intro _ i _ hs
    rw [h.state] at hs
    cases hs
  tag := fun _ => h.tag
  released := by
    intro _ i _ hc
    rw [h.state] at hc
    cases hc
  fed := by
    intro id inputs hm
    rw [h.effects] at hm
    cases hm

/-! ## What flows on -/

/-- A change that publishes nothing of an instance, lets none succeed, and lets none go on that
releases before the tag is published. -/
theorem Flows.shows (h : Flows R s) (hl : Logs s t)
    (ho : t.fatal = false → Shows t.decision? s.run.outputs t.run.outputs)
    (hs : ∀ id, t.state id = .succeeded → s.state id = .succeeded)
    (hc : ∀ i, s.graph.instance? i.id = some i → (t.state i.id).isCleared = true →
      (s.state i.id).isCleared = true ∨ (i.template.release = true → s.Releases))
    (hf : ∀ id inputs, .dispatched id inputs ∈ t.effects →
      .dispatched id inputs ∈ s.effects ∨
        List.Forall₂ (fun p q => q.1 = p.1 ∧ Delivers R s p.2 q.2) (s.graph.inputsOf id) inputs) :
    Flows R t := by
  have hg : t.graph = s.graph := hl.steady.graph
  have hkeep : ∀ v, s.tag? = some v → t.fatal = false → t.tag?.isSome = true := by
    intro v hv ht
    rcases (ho ht).tag with he | ⟨_, _, _, he⟩
    · exact congrArg Option.isSome (he.trans hv)
    · exact congrArg Option.isSome he
  refine ⟨fun ht q => (ho ht).staged q (h.staged (hl.steady.unaborted ht) q), ?_, ?_, ?_, ?_⟩
  · intro ht i hi hsucceeded k hk
    obtain ⟨hrun, report, w, hreport, hw, hp⟩ :=
      h.published (hl.steady.unaborted ht) i (hg ▸ hi) (hs _ hsucceeded) k hk
    refine ⟨hrun, report, w, hreport, hw, ?_⟩
    rw [OutputStore.peek?, (ho ht).published _ hrun]
    exact hp
  · intro ht v hv
    rcases (ho ht).tag with he | ⟨o, hd, hr, he⟩
    · obtain ⟨o, hd, hr, hv⟩ := h.tag (hl.steady.unaborted ht) v (he.symm.trans hv)
      exact ⟨o, hl.steady.decision hd, hr, hv⟩
    · exact ⟨o, hd, hr, Option.some.inj (hv.symm.trans he)⟩
  · intro ht i hi hcleared hr
    have hsome : s.tag?.isSome = true := by
      rcases hc i (hg ▸ hi) hcleared with hwas | hreleases
      · exact h.released (hl.steady.unaborted ht) i (hg ▸ hi) hwas hr
      · obtain ⟨_, _, _, hsome⟩ := hreleases hr
        exact hsome
    obtain ⟨v, hv⟩ := Option.isSome_iff_exists.1 hsome
    exact hkeep v hv ht
  · intro id inputs hm
    rw [hg]
    have hfed := (hf id inputs hm).elim (h.fed id inputs) fun hfed => hfed
    refine hfed.imp ?_
    rintro _ _ ⟨hn, hv⟩
    exact ⟨hn, hv.mono (fun _ _ hR => hR) fun _ => hl.steady.decision⟩

theorem dispatched_of_quiet {notes : List Effect} {inputs : List (String × Value)}
    (hq : ∀ e ∈ notes, e.isQuiet = true) : .dispatched id inputs ∉ notes := by
  intro hm
  have := hq _ hm
  cases this

theorem dispatched_of_moves {r : StageRecord} {j : String} {inputs : List (String × Value)}
    (hm : Moves s t id r []) (h : .dispatched j inputs ∈ t.effects) :
    .dispatched j inputs ∈ s.effects := by
  rw [hm.effects] at h
  simpa using h

theorem Flows.wane (h : Flows R s) (hw : Wane s t) : Flows R t := by
  refine h.shows hw.logs ?_ ?_ (fun i _ hc => Or.inl (hw.cleared hc)) ?_
  · rcases hw with ha | hl
    · exact fun _ => ha.outputs
    · exact hl.outputs
  · intro id hs
    rcases hw with ha | @⟨j, r, hl⟩
    · rwa [← ha.state]
    · rw [hl.state] at hs
      split at hs
      · have hlost := hl.lost
        rw [hs] at hlost
        cases hlost
      · exact hs
  · intro id inputs hm
    refine Or.inl ?_
    rcases hw with ha | hl
    · obtain ⟨notes, he, hq⟩ := ha.effects
      rw [he] at hm
      exact (List.mem_append.1 hm).resolve_right (dispatched_of_quiet hq)
    · exact dispatched_of_moves hl.toMoves hm

/-! ## Gathering inputs -/

/-- What an ancestor declares is published when all that the instance depends on has succeeded. -/
theorem Flows.declared_of_ancestor (hf : Framed s) (h : Flows R s) (going : s.fatal = false)
    (hsucceeded : ∀ a, s.graph.DependsOn id a → s.state a = .succeeded) {p : Instance}
    (hp : p ∈ s.graph.ancestorInstances id) {k : String} (hk : k ∈ p.template.outputs) :
    ∃ v, s.run.outputs.peek? p.id k = some v ∧ Delivers R s ⟨p.id, k⟩ v := by
  obtain ⟨ha, hknown⟩ := StageGraph.id_of_mem_ancestorInstances hf.sound.instance_id hp
  obtain ⟨hrun, report, w, hreport, hw, hpeek⟩ :=
    h.published going p hknown (hsucceeded _ (hf.sound.ancestors ha)) _ hk
  exact ⟨_, hpeek, Or.inr ⟨hrun, report, w, hreport, hw, rfl⟩⟩

/-- And the tag is there when one of them releases. -/
theorem Flows.tag_of_ancestor (hf : Framed s) (h : Flows R s) (going : s.fatal = false)
    (hsucceeded : ∀ a, s.graph.DependsOn id a → s.state a = .succeeded) {p : Instance}
    (hp : p ∈ s.graph.ancestorInstances id) (hr : p.template.release = true) :
    s.tag?.isSome = true := by
  obtain ⟨ha, hknown⟩ := StageGraph.id_of_mem_ancestorInstances hf.sound.instance_id hp
  exact h.released going p hknown (by rw [hsucceeded _ (hf.sound.ancestors ha)]; rfl) hr

/-- A tag that is there is that of the release. -/
theorem Flows.delivers_tag (h : Flows R s) (going : s.fatal = false)
    (hsome : s.tag?.isSome = true) : ∃ v, s.run.outputs.peek? runScope "release_tag" = some v ∧
      Delivers R s ⟨runScope, "release_tag"⟩ v := by
  obtain ⟨v, hv⟩ := Option.isSome_iff_exists.1 hsome
  exact ⟨v, hv, Or.inl ⟨rfl, h.tag going v hv⟩⟩

/-- An input of an instance that was let go on is published. -/
theorem Flows.delivered (hf : Framed s) (hg : Rooted s) (h : Flows R s)
    (going : s.fatal = false) (hi : s.graph.instance? i.id = some i)
    (hc : (s.state i.id).isCleared = true) {name : String} {source : Source}
    (hs : (name, source) ∈ s.graph.inputsOf i.id) :
    ∃ v, s.run.outputs.peek? source.producer source.key = some v ∧ Delivers R s source v := by
  have hsucceeded := hg.ancestors hf (hg i hi hc)
  obtain ⟨j, hj, hfeeds⟩ := hf.sound.inputs hs
  rw [hi] at hj
  cases hj
  rcases hfeeds with ⟨rfl, hreleasing⟩ | ⟨p, hp, hproducer, hkey⟩
  · -- the tag of the release, which the instance itself or an ancestor waited for
    refine h.delivers_tag going ?_
    rcases Bool.or_eq_true_iff.1 hreleasing with hown | hany
    · exact h.released going i hi hc hown
    · obtain ⟨p, hp, hr⟩ := List.any_eq_true.1 hany
      exact h.tag_of_ancestor hf going hsucceeded hp hr
  · obtain ⟨producer, key⟩ := source
    obtain rfl := hproducer
    exact h.declared_of_ancestor hf going hsucceeded hp hkey

theorem mapM_named {l : List (String × Source)} {f : Source → Except OutputFault Value}
    {D : Source → Value → Prop} (h : ∀ p ∈ l, ∃ v, f p.2 = .ok v ∧ D p.2 v) :
    ∃ r, (l.mapM fun (name, source) => do return (name, ← f source)) = .ok r ∧
      List.Forall₂ (fun p q => q.1 = p.1 ∧ D p.2 q.2) l r := by
  induction l with
  | nil => exact ⟨[], rfl, .nil⟩
  | cons p l ih =>
    obtain ⟨name, source⟩ := p
    obtain ⟨v, hv, hD⟩ := h _ List.mem_cons_self
    obtain ⟨r, hr, hall⟩ := ih fun q hq => h q (List.mem_cons_of_mem _ hq)
    refine ⟨(name, v) :: r, ?_, .cons ⟨rfl, hD⟩ hall⟩
    rw [List.mapM_cons, hr]
    dsimp only at hv
    simp only [hv, bind, Except.bind, pure, Except.pure]

/-- The inputs of an instance that was let go on can all be read. -/
theorem Flows.gathered_of_rooted (hf : Framed s) (hg : Rooted s) (h : Flows R s)
    (going : s.fatal = false) (hi : s.graph.instance? i.id = some i)
    (hc : (s.state i.id).isCleared = true) :
    ∃ inputs, s.gatherInputs i.id = .ok inputs ∧
      List.Forall₂ (fun p q => q.1 = p.1 ∧ Delivers R s p.2 q.2)
        (s.graph.inputsOf i.id) inputs := by
  refine mapM_named (f := fun source => s.run.outputs.read source.producer source.key (some i.id))
    fun p hp => ?_
  obtain ⟨v, hpeek, hv⟩ := h.delivered hf hg going hi hc hp
  exact ⟨v, by simp only [OutputStore.read, hpeek], hv⟩

theorem Flows.gathered (hf : Framed s) (hg : Guarded s) (h : Flows R s)
    (going : s.halted = false) (hi : s.graph.instance? i.id = some i)
    (hc : (s.state i.id).isCleared = true) :
    ∃ inputs, s.gatherInputs i.id = .ok inputs ∧
      List.Forall₂ (fun p q => q.1 = p.1 ∧ Delivers R s p.2 q.2)
        (s.graph.inputsOf i.id) inputs :=
  h.gathered_of_rooted hf hg.rooted (unaborted_of_going going) hi hc

/-! ## A success -/

/-- When all that a stage declares was written, each key is staged with the text of what was
reported for it; and a stage that is called like the run declares nothing. -/
theorem staged_of_success {report : BodyReport} {o o' : OutputStore}
    (hempty : ∀ q, o.stagedOf q = []) (wrote : stageOutputs i o report.outputs = (o', none))
    {k : String} (hk : k ∈ i.template.outputs)
    (hall : (getPair? k (o'.stagedOf i.id)).isSome = true) :
    i.id ≠ runScope ∧ ∃ w, getPair? k report.outputs = some w ∧
      getPair? k (o'.stagedOf i.id) = some (.text w.shown) := by
  have hrun : i.id ≠ runScope := by
    intro hrun
    have hsame := @stagedOf_stageOutputs_ne i o report.outputs i.id (Or.inr hrun)
    rw [wrote, hempty] at hsame
    rw [hsame] at hall
    cases hall
  obtain ⟨_, hstaged⟩ := stagedOf_stageOutputs hrun wrote hk
  rw [hempty] at hstaged
  refine ⟨hrun, ?_⟩
  rcases hw : getPair? k report.outputs with _ | w
  · rw [hw] at hstaged
    rw [hstaged] at hall
    cases hall
  · rw [hw] at hstaged
    exact ⟨w, rfl, hstaged⟩

/-- A success publishes the text of what was reported under each declared key. -/
theorem peek?_of_success {report : BodyReport} {o o' : OutputStore}
    (hempty : ∀ q, o.stagedOf q = []) (wrote : stageOutputs i o report.outputs = (o', none))
    {k : String} (hk : k ∈ i.template.outputs)
    (hall : (getPair? k (o'.stagedOf i.id)).isSome = true) :
    i.id ≠ runScope ∧ ∃ w, getPair? k report.outputs = some w ∧
      (o'.commit i.id).peek? i.id k = some (.text w.shown) := by
  obtain ⟨hrun, w, hw, hk'⟩ := staged_of_success hempty wrote hk hall
  refine ⟨hrun, w, hw, ?_⟩
  have hnodup := @nodup_stagedOf_stageOutputs i o report.outputs
    (by rw [hempty]; exact List.nodup_nil)
  rw [wrote] at hnodup
  rw [OutputStore.peek?_commit_self hnodup, hk']
  rfl

/-- A success publishes nothing of others. -/
theorem publishedOf_of_success {report : BodyReport} {o o' : OutputStore} {q : String}
    (hq : q ≠ i.id) (wrote : stageOutputs i o report.outputs = (o', none)) :
    (o'.commit i.id).publishedOf q = o.publishedOf q := by
  have hsame := @publishedOf_stageOutputs i o report.outputs q (Or.inl hq)
  rw [wrote] at hsame
  rw [OutputStore.publishedOf_commit, if_neg hq, hsame]

/-- A stage that is called like the run declares nothing if it succeeds, so it writes nothing. -/
theorem unwritten_of_run {report : BodyReport} {o o' : OutputStore}
    (hempty : ∀ q, o.stagedOf q = []) (wrote : stageOutputs i o report.outputs = (o', none))
    (all : ∀ k ∈ i.template.outputs, (getPair? k (o'.stagedOf i.id)).isSome = true)
    (hrun : i.id = runScope) : o' = o := by
  have hnone : i.template.outputs = [] := by
    rcases ho : i.template.outputs with _ | ⟨k, ks⟩
    · rfl
    · have hk : k ∈ i.template.outputs := by rw [ho]; exact List.mem_cons_self
      exact absurd hrun (staged_of_success hempty wrote hk (all k hk)).1
  have hsame := @stageOutputs_of_no_outputs i o report.outputs hnone
  rw [wrote] at hsame
  exact (Prod.mk.inj hsame).1

/-- A success leaves the tag of the release alone. -/
theorem tag_of_success {report : BodyReport} {o o' : OutputStore}
    (hempty : ∀ q, o.stagedOf q = []) (wrote : stageOutputs i o report.outputs = (o', none))
    (all : ∀ k ∈ i.template.outputs, (getPair? k (o'.stagedOf i.id)).isSome = true) :
    (o'.commit i.id).peek? runScope "release_tag" = o.peek? runScope "release_tag" := by
  rw [OutputStore.peek?, OutputStore.peek?]
  by_cases hrun : runScope = i.id
  · obtain rfl := unwritten_of_run hempty wrote all hrun.symm
    rw [hrun, OutputStore.publishedOf_commit, if_pos rfl, hempty]
    rfl
  · rw [publishedOf_of_success hrun wrote]

/-- A success publishes what its report said, and changes nothing that others published. -/
theorem Flows.succeed {report : BodyReport} {o : OutputStore} (h : Flows R s)
    (hl : Logs s (s.complete i.id report)) (hi : s.graph.instance? i.id = some i)
    (was : s.state i.id = .running) (good : report.status = .succeeded)
    (wrote : stageOutputs i s.run.outputs report.outputs = (o, none))
    (all : ∀ k ∈ i.template.outputs, (getPair? k (o.stagedOf i.id)).isSome = true)
    (hR : R i.id report) : Flows R (s.complete i.id report) := by
  have he := complete_of_success hi was good wrote all
  have hg : (s.complete i.id report).graph = s.graph := hl.steady.graph
  have hstate : ∀ j, (s.complete i.id report).state j =
      if j = i.id then .succeeded else s.state j := fun j => by rw [he, state_putPair _ _ rfl]; rfl
  have hout : (s.complete i.id report).run.outputs = o.commit i.id := by rw [he]
  have htag : s.fatal = false → (s.complete i.id report).tag? = s.tag? := by
    intro hgoing
    rw [tag?, hout, tag_of_success (h.staged hgoing) wrote all, tag?]
  refine ⟨fun ht q => ?_, fun ht j hj hs k hk => ?_, fun ht v hv => ?_, fun ht j hj hc hr => ?_,
    fun id inputs hm => ?_⟩
  · rw [hout, OutputStore.stagedOf_commit]
    split
    · rfl
    · rename_i hq
      have hsame := @stagedOf_stageOutputs_ne i s.run.outputs report.outputs q (Or.inl hq)
      rw [wrote] at hsame
      rw [hsame, h.staged (hl.steady.unaborted ht)]
  · have hgoing := hl.steady.unaborted ht
    rw [hg] at hj
    by_cases hid : j.id = i.id
    · obtain rfl := instance_unique hj hi hid
      obtain ⟨hrun, w, hw, hpeek⟩ := peek?_of_success (h.staged hgoing) wrote hk (all k hk)
      exact ⟨hrun, report, w, hR, hw, hout ▸ hpeek⟩
    · rw [hstate, if_neg hid] at hs
      obtain ⟨hrun, report', w, hR', hw, hpeek⟩ := h.published hgoing j hj hs k hk
      refine ⟨hrun, report', w, hR', hw, ?_⟩
      rw [hout, OutputStore.peek?, publishedOf_of_success hid wrote]
      exact hpeek
  · rw [htag (hl.steady.unaborted ht)] at hv
    obtain ⟨o', hd, hr, hv⟩ := h.tag (hl.steady.unaborted ht) v hv
    exact ⟨o', hl.steady.decision hd, hr, hv⟩
  · rw [htag (hl.steady.unaborted ht)]
    rw [hg] at hj
    refine h.released (hl.steady.unaborted ht) j hj ?_ hr
    rw [hstate] at hc
    split at hc
    · rename_i hid
      rw [hid, was]
      rfl
    · exact hc
  · rw [hg]
    have hbefore : .dispatched id inputs ∈ s.effects := by
      rw [he] at hm
      simpa using hm
    refine (h.fed id inputs hbefore).imp ?_
    rintro _ _ ⟨hn, hv⟩
    exact ⟨hn, hv.mono (fun _ _ hR => hR) fun _ => hl.steady.decision⟩

/-- A move that is no end changes nothing that readers see. -/
theorem Flows.move {awaiting : List (String × String)} {st : State} (h : Flows R s)
    (hl : Logs s (move { s with awaiting } id st)) (ho : (s.state id).isTerminal = false)
    (hst : st.isTerminal = false)
    (hc : ∀ i, s.graph.instance? i.id = some i →
      ((move { s with awaiting } id st).state i.id).isCleared = true →
      (s.state i.id).isCleared = true ∨ (i.template.release = true → s.Releases)) :
    Flows R (move { s with awaiting } id st) := by
  have he := @move_of_unended { s with awaiting } id st none ho hst
  refine h.shows hl (fun _ => ?_) (fun j hs => ?_) hc fun j inputs hm => Or.inl ?_
  · rw [show (Scheduler.move { s with awaiting } id st).run.outputs = s.run.outputs by rw [he]]
    exact shows_refl _ _
  · rw [state_move (s := { s with awaiting }) ho] at hs
    split at hs
    · rw [hs] at hst
      cases hst
    · exact hs
  · rw [he] at hm
    simpa using hm

theorem Flows.start {inputs : List (String × Value)} (hf : Framed s) (hg : Rooted s)
    (h : Flows R s) (hl : Logs s (s.start id inputs)) (present : id ∈ s.run.stages.map (·.1))
    (going : s.fatal = false) (able : s.startable id = true)
    (gathered : s.gatherInputs id = .ok inputs) : Flows R (s.start id inputs) := by
  have was := (ready_of_startable able).1
  have he := @start_eq s id (by rw [was]; rfl) inputs
  have hstate : ∀ j, (s.start id inputs).state j = if j = id then .running else s.state j :=
    fun j => by rw [he, state_putPair _ _ rfl]; rfl
  refine h.shows hl (fun _ => ?_) (fun j hs => ?_) (fun j _ hc => Or.inl ?_) fun j inputs' hm => ?_
  · rw [show (s.start id inputs).run.outputs = s.run.outputs by rw [he]]
    exact shows_refl _ _
  · rw [hstate] at hs
    split at hs
    · cases hs
    · exact hs
  · rw [hstate] at hc
    split at hc
    · rename_i hid
      rw [hid, was]
      rfl
    · exact hc
  · rw [he] at hm
    rcases List.mem_append.1 hm with hm | hm
    · exact Or.inl hm
    · obtain ⟨rfl, rfl⟩ : j = id ∧ inputs' = inputs := by simpa using hm
      rw [hf.keys] at present
      obtain ⟨i, hi⟩ := exists_getPair?_of_key_mem present
      obtain rfl := hf.id_eq hi
      obtain ⟨found, hfound, hall⟩ := h.gathered_of_rooted hf hg going hi (by rw [was]; rfl)
      rw [gathered] at hfound
      cases hfound
      exact Or.inr hall

theorem Flows.rise (hf : Framed s) (hg : Rooted s) (h : Flows R s) (hr : Rise e s t)
    (hR : ∀ p report rest, e.queue = .done p report :: rest → report.status = .succeeded →
      s.state p = .running → t.state p = .succeeded → R p report) : Flows R t := by
  have hlogs := hr.logs hf
  have hcleared : ∀ i, s.graph.instance? i.id = some i → (t.state i.id).isCleared = true →
      (s.state i.id).isCleared = true ∨ (i.template.release = true → s.Releases) :=
    fun i hi hc => (hr.cleared hi hc).imp_right fun hclears => hclears.release
  cases hr with
  | block _ was => exact h.move hlogs (by rw [was]; rfl) rfl hcleared
  | ready _ was =>
    exact h.move hlogs (State.not_isTerminal_of_isWaiting (isWaiting_of_was was)) rfl hcleared
  | wait _ was =>
    exact h.move hlogs (State.not_isTerminal_of_isWaiting (isWaiting_of_was was)) rfl hcleared
  | pass =>
    exact h.shows hlogs (fun _ => shows_refl _ _) (fun _ hs => hs) hcleared
      fun _ _ hm => Or.inl hm
  | start present going _ able gathered =>
    exact h.start hf hg hlogs present (unaborted_of_going going) able gathered
  | @succeed i report rest o known told good was wrote all =>
    refine h.succeed hlogs known was good wrote all (hR _ _ _ told good was ?_)
    rw [complete_of_success known was good wrote all, state_putPair _ _ rfl, if_pos rfl]
    rfl

/-! ## Along a run -/

/-- The report with which an instance has succeeded: it was the next thing that the scheduler heard
when the instance was running, and then the instance had succeeded. -/
def Reported (s₀ s : Scheduler) (id : String) (report : BodyReport) : Prop :=
  ∃ u v rest, Leads s₀ u ∧ Step u v ∧ Leads v s ∧ u.queue = .done id report :: rest ∧
    report.status = .succeeded ∧ u.state id = .running ∧ v.state id = .succeeded

theorem Reported.snoc {report : BodyReport} (h : Reported s₀ s id report) (hs : Step s t) :
    Reported s₀ t id report := by
  obtain ⟨u, v, rest, hu, huv, hv, hrest⟩ := h
  exact ⟨u, v, rest, hu, huv, hv.snoc hs, hrest⟩

theorem Leads.flows (h₀ : Fresh s₀) (h : Leads s₀ s) : Flows (Reported s₀ s) s := by
  induction h with
  | refl => exact h₀.flows
  | @tail u v hlead hstep ih =>
    obtain ⟨hf, hk⟩ := Leads.framed h₀.framed h₀.keyed hlead
    have hu : Flows (Reported s₀ v) u := Flows.mono ih fun _ _ h => h.snoc hstep
    rcases hstep.changes hf hk with hw | @⟨w, ha, hr⟩
    · exact hw.keeps hf hu fun _ _ _ h hw => h.wane hw
    · have hrooted := ((Leads.guarded h₀ hlead).2.wane (.aside ha.toAside)).rooted
      refine (hu.wane (.aside ha.toAside)).rise (hf.aside ha.toAside) hrooted hr ?_
      intro p report rest hqueue good was hnow
      rw [ha.state] at was
      exact ⟨u, v, rest, hlead, hstep, Leads.refl v, hqueue, good, was, hnow⟩

/-- Along a run that starts with some successes it is still so, whatever the bodies report. -/
theorem Leads.flows_of_rooted (h₀ : Poised s₀) (hr₀ : Rooted s₀) (hf₀ : Flows (fun _ _ => True) s₀)
    (h : Leads s₀ s) : Flows (fun _ _ => True) s := by
  refine (h.keeps (P := fun v => Rooted v ∧ Flows (fun _ _ => True) v) h₀.framed h₀.keyed
    ⟨hr₀, hf₀⟩ (fun _ _ _ hu hw => ⟨hu.1.wane hw, hu.2.wane hw⟩) fun _ _ _ hf hu hr => ?_).2
  exact ⟨hu.1.rise hf hr, hu.2.rise hf hu.1 hr fun _ _ _ _ _ _ _ => trivial⟩

/-! ## The law -/

/-- Every body that is started in a run is given just the inputs that its instance declares, and
under each name the text of what the producer reported, or the tag of the release. While the run
goes on, the inputs of an instance that can be started are all there. -/
theorem a_body_is_given_what_its_producers_reported (h₀ : Fresh s₀) (h : Leads s₀ s) :
    (∀ id inputs, .dispatched id inputs ∈ s.effects →
      List.Forall₂ (fun p q => q.1 = p.1 ∧ Delivers (Reported s₀ s) s p.2 q.2)
        (s.graph.inputsOf id) inputs) ∧
    (s.halted = false → ∀ id, s.startable id = true →
      ∃ inputs, s.gatherInputs id = .ok inputs) := by
  have hflows := h.flows h₀
  refine ⟨hflows.fed, fun going id able => ?_⟩
  obtain ⟨hf, _⟩ := h.framed h₀.framed h₀.keyed
  have was := (ready_of_startable able).1
  obtain ⟨i, rfl, hi⟩ := hf.instance_of_unpending (by rw [was]; simp)
  obtain ⟨inputs, hinputs, _⟩ :=
    hflows.gathered hf (h.guarded h₀).2 going hi (by rw [was]; rfl)
  exact ⟨inputs, hinputs⟩

theorem the_release_was_given_the_image_and_its_tag :
    shipReleasing.graph.inputsOf "deploy" =
        [("image", ⟨"build", "image"⟩), ("release_tag", ⟨runScope, "release_tag"⟩)] ∧
      ∃ inputs, .dispatched "deploy" inputs ∈ shipReleasing.effects ∧
        List.Forall₂
          (fun p q => q.1 = p.1 ∧ Delivers (Reported shipStart shipReleasing) shipReleasing p.2 q.2)
          (shipReleasing.graph.inputsOf "deploy") inputs := by
  have hstarted : "deploy" ∈ shipReleasing.started := by decide +kernel
  obtain ⟨effect, hm, hs⟩ := List.mem_filterMap.1 hstarted
  cases effect with
  | dispatched id inputs =>
    obtain rfl : id = "deploy" := Option.some.inj hs
    exact ⟨by decide +kernel, inputs, hm,
      (a_body_is_given_what_its_producers_reported fresh_shipStart leads_shipReleasing).1 _ _ hm⟩
  | journal | moved | shutdown | notice => cases hs

end GatedPipeline.Scheduler
