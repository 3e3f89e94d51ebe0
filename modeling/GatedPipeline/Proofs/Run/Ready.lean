-- What is ready, asked anew. The query looks at every dependency and every
-- condition again, and comes to just the instances that the scheduler has made
-- ready step by step: a condition that held when an instance was let go on holds
-- ever after, while more is published and the release is decided.
import GatedPipeline.Proofs.Condition.Reads
import GatedPipeline.Proofs.Condition.Why
import GatedPipeline.Proofs.Run.Causes
import GatedPipeline.Proofs.Run.Progress
import GatedPipeline.Proofs.Run.Published
namespace GatedPipeline.Scheduler
open GatedPipeline.Condition (evaluate_kept evaluate_of_unasked)

variable {g : StageGraph} {rows : List (String × StageRecord)} {release : Option ReleaseOutcome}
  {R : String → BodyReport → Prop} {s₀ s t u e : Scheduler} {id : String} {i : Instance}

/-! ## What stays published -/

/-- Nothing changes of what instances have published that had succeeded, and the tag of a release
that is there stays there. -/
structure Retains (s t : Scheduler) : Prop where
  succeeded : ∀ d, s.state d = .succeeded → t.state d = .succeeded
  published : ∀ d, d ≠ runScope → s.state d = .succeeded →
    t.run.outputs.publishedOf d = s.run.outputs.publishedOf d
  tag : s.tag?.isSome = true → t.tag?.isSome = true

theorem Retains.refl (s : Scheduler) : Retains s s := ⟨fun _ h => h, fun _ _ _ => rfl, id⟩

theorem Retains.trans (h : Retains s t) (h' : Retains t u) : Retains s u where
  succeeded d hd := h'.succeeded d (h.succeeded d hd)
  published d hrun hd := (h'.published d hrun (h.succeeded d hd)).trans (h.published d hrun hd)
  tag ht := h'.tag (h.tag ht)

theorem Wane.retains (h : Wane s t) (going : t.fatal = false) : Retains s t := by
  have hshows : Shows t.decision? s.run.outputs t.run.outputs := by
    rcases h with ha | hl
    · exact ha.outputs
    · exact hl.outputs going
  exact ⟨fun _ hd => h.logs.succeeded hd, fun d hrun _ => hshows.published d hrun,
    hshows.tag_isSome⟩

theorem Rise.retains (hf : Framed s) (hflows : Flows R s) (h : Rise e s t)
    (going : t.fatal = false) : Retains s t := by
  have hlogs := h.logs hf
  have hstaged := hflows.staged (hlogs.steady.unaborted going)
  rcases h.outputs_or_success with
    ⟨hsame, _⟩ | ⟨i, report, _, o, known, _, good, was, wrote, all, rfl⟩
  · exact ⟨fun _ hd => hlogs.succeeded hd, fun _ _ _ => by rw [hsame],
      fun ht => by rwa [tag?, hsame]⟩
  · have hout : (s.complete i.id report).run.outputs = o.commit i.id := by
      rw [complete_of_success known was good wrote all]
    refine ⟨fun _ hd => hlogs.succeeded hd, fun d _ hd => ?_, fun ht => ?_⟩
    · -- the instance that succeeds ran until now
      have hne : d ≠ i.id := by
        rintro rfl
        rw [was] at hd
        cases hd
      rw [hout, publishedOf_of_success hne wrote]
    · rwa [tag?, hout, tag_of_success hstaged wrote all]

theorem Changes.retains (hf : Framed s) (hflows : Flows R s) (h : Changes s t)
    (going : t.fatal = false) : Retains s t := by
  rcases h with hw | @⟨u, ha, hr⟩
  · refine hw.keeps (P := fun u => u.fatal = false → Retains s u) hf (fun _ => Retains.refl s)
      (fun u v _ hu hw ht => ?_) going
    exact (hu (hw.steady.unaborted ht)).trans (hw.retains ht)
  · have haside : Wane s u := .aside ha.toAside
    have hfu := hf.wane haside
    exact (haside.retains ((hr.logs hfu).steady.unaborted going)).trans
      (hr.retains hfu (hflows.wane haside) going)

/-! ## What a run is like at any moment -/

/-- What is so at every moment of a run. -/
structure Coherent (s : Scheduler) : Prop where
  framed : Framed s
  keyed : s.gates.Keyed
  rooted : Rooted s
  flows : Flows (fun _ _ => True) s
  bare : Bare s

theorem Begun.coherent (h₀ : Begun g rows release s₀) (h : Leads s₀ s) : Coherent s := by
  obtain ⟨hrevives, hkept⟩ := h₀.revives
  obtain ⟨hf, hk⟩ := h.framed hrevives.framed hrevives.keyed
  have hrooted := hrevives.rooted hkept
  have hflows := hrevives.flows hkept
  exact ⟨hf, hk, h.rooted hrevives.toPoised hrooted,
    h.flows_of_rooted hrevives.toPoised hrooted hflows,
    h.bare_of_rooted hrevives.toPoised hrooted hflows (hrevives.bare hkept)⟩

/-! ## What a condition may know -/

/-- A scope of the condition of an instance knows more if more is published and decided. -/
theorem conditionScope_extendedBy {trigger : Trigger} {find find' : String → String → Option Value}
    {facts facts' : Option (Except String (List (String × String)))}
    (houtputs : ∀ stage key p v, g.conditionProducer? i.id stage key = some p →
      find p key = some v → find' p key = some v)
    (hfacts : ∀ f, facts = some (.ok f) → facts' = some (.ok f)) :
    (g.conditionScope i trigger (some find) facts).ExtendedBy
      (g.conditionScope i trigger (some find') facts') where
  event := rfl
  ref := rfl
  fork := rfl
  actor := rfl
  workflow := rfl
  values _ _ h := h
  matrix _ _ h := h
  outputs stage key v h := by
    have hfound : ((g.conditionProducer? i.id stage key).bind fun p => find p key) = some v := h
    obtain ⟨p, hp, hv⟩ := Option.bind_eq_some_iff.1 hfound
    have hkept : ((g.conditionProducer? i.id stage key).bind fun p => find' p key) = some v :=
      Option.bind_eq_some_iff.2 ⟨p, hp, houtputs stage key p v hp hv⟩
    exact hkept
  facts key v h := by
    unfold Condition.Scope.fact? at h ⊢
    split at h
    · rename_i f hf
      rw [show (g.conditionScope i trigger (some find') facts').release = some (.ok f) from
        hfacts f hf]
      exact h
    · cases h
  changedFiles := Or.inr rfl

/-- The facts of the release decision, if there is one. -/
def decidedFacts (s : Scheduler) : Option (Except String (List (String × String))) :=
  s.decision?.map fun o => .ok o.facts

theorem decidedFacts_eq_some {f : List (String × String)} :
    s.decidedFacts = some (.ok f) ↔ ∃ o, s.decision? = some o ∧ o.facts = f := by
  simp [decidedFacts]

/-- What the condition of an instance may read now: what is published, and the release decision if
there is one. -/
def known (s : Scheduler) (i : Instance) : Condition.Scope :=
  s.graph.conditionScope i s.run.trigger (some s.run.outputs.peek?) s.decidedFacts

/-- The condition of the instance holds by what is known now. -/
def Holding (s : Scheduler) (i : Instance) : Prop :=
  (Condition.evaluate i.template.condition (s.known i)).holds = .ok true

/-- What is retained of a run is known to the condition of an instance whose dependencies have
succeeded. -/
theorem Holding.retained (hs : Coherent s) (ht : Coherent t) (hsteady : Steady s t)
    (hretains : Retains s t) (going : t.fatal = false) (hi : s.graph.instance? i.id = some i)
    (hdeps : ∀ d ∈ s.graph.dependencies i.id, s.state d = .succeeded) (h : Holding s i) :
    Holding t i := by
  have hgoing := hsteady.unaborted going
  unfold Holding known
  rw [show t.graph = s.graph from hsteady.graph, hsteady.trigger]
  refine evaluate_kept (conditionScope_extendedBy (fun stage key p v hp hv => ?_) fun f hf => ?_) h
  · obtain ⟨_, htag | ⟨q, hq, rfl, hkey⟩⟩ := hs.framed.sound.conditions hi hp
    · -- the tag is that of the decision, which is kept
      cases htag
      obtain ⟨o, ho, _, rfl⟩ := hs.flows.tag hgoing v hv
      have hsome : t.tag?.isSome = true := hretains.tag (by rw [tag?, hv]; rfl)
      obtain ⟨w, hw⟩ := Option.isSome_iff_exists.1 hsome
      obtain ⟨o', ho', _, rfl⟩ := ht.flows.tag going w hw
      obtain rfl := Option.some.inj ((hsteady.decision ho).symm.trans ho')
      exact hw
    · obtain ⟨hancestor, hknown⟩ :=
        StageGraph.id_of_mem_ancestorInstances hs.framed.sound.instance_id hq
      have hsucceeded := hs.rooted.ancestors hs.framed hdeps q.id
        (hs.framed.sound.ancestors hancestor)
      obtain ⟨hrun, _⟩ := hs.flows.published hgoing q hknown hsucceeded key hkey
      rwa [OutputStore.peek?, hretains.published q.id hrun hsucceeded]
  · obtain ⟨o, ho, rfl⟩ := decidedFacts_eq_some.1 hf
    exact decidedFacts_eq_some.2 ⟨o, hsteady.decision ho, rfl⟩

/-! ## Conditions that are looked at -/

/-- A condition that holds by what is known holds when it is looked at. -/
theorem Holding.conditionHolds (hs : Coherent s) (going : s.fatal = false) (h : Holding s i) :
    (s.conditionHolds i).1 = .ok true := by
  have ha := asks_releaseFacts s
  have hfacts : ∀ f, s.decidedFacts = some (.ok f) → some s.releaseFacts.1 = some (.ok f) := by
    intro f hf
    obtain ⟨o, ho, rfl⟩ := decidedFacts_eq_some.1 hf
    have hanswer := hs.bare.decideRelease_of_decided going ho
    rw [releaseFacts_of_decideRelease (Prod.ext hanswer rfl)]
  unfold Scheduler.conditionHolds
  dsimp only
  split
  · rw [show s.releaseFacts.2.graph = s.graph from ha.graph,
      show s.releaseFacts.2.run.trigger = s.run.trigger from ha.trigger]
    refine evaluate_kept (conditionScope_extendedBy (fun _ _ _ _ _ hv => ?_) hfacts) h
    exact hs.flows.kept (hs.flows.wane (.aside ha.toAside)) ha.toAside
      ((fatal_of_flags ha.flags).trans going) hv
  · exact evaluate_kept (conditionScope_extendedBy (fun _ _ _ _ _ hv => hv) hfacts) h

/-- Facts that were told are those of the decision. -/
theorem decision_of_releaseFacts {f : List (String × String)} (h : s.releaseFacts.1 = .ok f) :
    ∃ o, s.releaseFacts.2.decision? = some o ∧ o.facts = f := by
  rw [releaseFacts_snd]
  unfold releaseFacts at h
  split at h
  · cases h
  · split at h
    · rename_i o v hdecide
      refine ⟨o, ?_, Except.ok.inj h⟩
      rw [hdecide]
      exact decision_of_decideRelease hdecide
    · cases h

/-- A condition that has held when it was looked at holds by what is known then. -/
theorem holding_of_conditionHolds (h : (s.conditionHolds i).1 = .ok true) :
    Holding (s.conditionHolds i).2 i := by
  unfold Scheduler.conditionHolds at h ⊢
  dsimp only at h ⊢
  split at h
  · rename_i hasked
    rw [if_pos hasked]
    refine evaluate_kept (conditionScope_extendedBy (fun _ _ _ _ _ hv => hv) fun f hf => ?_) h
    exact decidedFacts_eq_some.2 (decision_of_releaseFacts (Option.some.inj hf))
  · rename_i hunasked
    rw [if_neg hunasked]
    exact (evaluate_of_unasked rfl (Bool.eq_false_iff.2 hunasked)).trans h

/-! ## Along a run -/

theorem Changes.steady (hf : Framed s) (h : Changes s t) : Steady s t := by
  rcases h with hw | ⟨ha, hr⟩
  · exact hw.steady
  · exact ha.toSteady.trans (hr.logs (hf.aside ha.toAside)).steady

/-- An instance is let go on only if its condition holds when it is looked at. -/
theorem Step.passed (hf : Framed s) (hk : s.gates.Keyed) (h : Step s t)
    (hi : s.graph.instance? i.id = some i) (was : (s.state i.id).isCleared = false)
    (now : (t.state i.id).isCleared = true) : (s.conditionHolds i).1 = .ok true := by
  have hnot : (s.state i.id).isCleared ≠ true := by simp [was]
  rcases h.changes hf hk with hw | @⟨u, ha, hr⟩
  · exact absurd (hw.cleared now) hnot
  · rcases hr.cleared (ha.instance_eq hi) now with hcleared | hclears
    · exact absurd (ha.state i.id ▸ hcleared) hnot
    · exact hclears.condition

/-- When an instance is let go on, its condition holds by what is known after that. -/
theorem Unlocks.holding (hv : Coherent (s.conditionHolds i).2)
    (ht : Coherent (s.unlock i)) (hgoing : s.fatal = false) (going : (s.unlock i).fatal = false)
    (h : Unlocks s i) (passed : (s.conditionHolds i).1 = .ok true) : Holding (s.unlock i) i := by
  have hheld := holding_of_conditionHolds passed
  have ha := asks_conditionHolds s i
  rcases hholds : s.conditionHolds i with ⟨answer, v⟩
  rw [hholds] at hv passed hheld ha
  obtain rfl : answer = .ok true := passed
  dsimp only at hv hheld ha
  have hi : v.graph.instance? i.id = some i := ha.instance_eq h.known
  have was : v.state i.id = .pending ∨ v.state i.id = .blocked := by
    rw [ha.state]
    exact h.was
  have hdeps : ∀ d ∈ v.graph.dependencies i.id, v.state d = .succeeded := by
    intro d hd
    rw [show v.graph = s.graph from ha.graph] at hd
    rw [ha.state]
    exact succeeded_of_satisfied h.satisfied d hd
  -- what is done after the condition was looked at is the whole of a look at that moment
  rw [unlock_of_passed hholds] at ht going ⊢
  have holds := hheld.conditionHolds hv ((fatal_of_flags ha.flags).trans hgoing)
  have hchanges : Changes v (v.passRelease i) :=
    (looks_passRelease (asks_refl v) hv.keyed hi was hdeps holds).changes hv.framed hi
  exact hheld.retained hv ht (hchanges.steady hv.framed)
    (hchanges.retains hv.framed hv.flows going) going hi hdeps

/-- The condition of a ready instance holds by what is known. -/
theorem Begun.holding (h₀ : Begun g rows release s₀) (h : Leads s₀ s) (going : s.fatal = false)
    (hi : s.graph.instance? i.id = some i) (hready : s.state i.id = .ready) : Holding s i := by
  induction h with
  | refl =>
    rcases h₀.revives.1.toPoised.state i.id with hs | hs <;> rw [hs] at hready <;> cases hready
  | @tail u t hlead hstep ih =>
    have hu := h₀.coherent hlead
    have ht := h₀.coherent (Leads.snoc hlead hstep)
    have hsteady := hstep.leads.steady hu.framed hu.keyed
    have hgoing := hsteady.unaborted going
    rw [show t.graph = u.graph from hsteady.graph] at hi
    have hchanges := hstep.changes hu.framed hu.keyed
    by_cases hwas : u.state i.id = .ready
    · exact (ih hgoing hi hwas).retained hu ht hsteady
        (hchanges.retains hu.framed hu.flows going) going hi (hu.rooted i hi (by rw [hwas]; rfl))
    · have hrank := (hstep.forward hu.framed hu.keyed i.id).1
      have was : (u.state i.id).isCleared = false := by
        rw [hready] at hrank
        cases hs : u.state i.id with
        | ready => exact absurd hs hwas
        | running | succeeded =>
          rw [hs] at hrank
          exact absurd hrank (by decide)
        | pending | blocked | failed | skipped | cancelled => rfl
      have now : (t.state i.id).isCleared = true := by rw [hready]; rfl
      obtain ⟨_, rfl, hunlocks⟩ := hstep.unlocks hu.framed hi was
        (by rw [hready]; exact Ne.symm hwas) (Or.inl now)
      have hpassed := hstep.passed hu.framed hu.keyed hi was now
      rw [hunlocks.visit] at ht going ⊢
      exact hunlocks.holding (h₀.coherent (Leads.trans hlead (leads_conditionHolds u i))) ht
        hgoing going hpassed

/-! ## The query -/

theorem satisfied_of_succeeded {states : String → State}
    (h : ∀ d ∈ g.dependencies id, states d = .succeeded) :
    g.dependencyStatus id states = .satisfied := by
  unfold StageGraph.dependencyStatus
  dsimp only
  rw [if_neg, if_pos]
  · exact List.all_eq_true.2 fun d hd => by rw [h d hd]; rfl
  · intro hlost
    obtain ⟨d, hd, hl⟩ := List.any_eq_true.1 hlost
    rw [h d hd] at hl
    cases hl

/-- When there is nothing to do, those are unlocked that are ready. -/
theorem Settled.mem_unlocked_iff (hs : Coherent s) (h : Settled s) :
    id ∈ s.graph.unlocked s.state ↔ s.state id = .ready := by
  constructor
  · intro hm
    obtain ⟨hid, hunlocked⟩ := List.mem_filter.1 hm
    obtain ⟨hwaits, hstatus⟩ := Bool.and_eq_true_iff.1 hunlocked
    obtain ⟨i, hi⟩ := exists_getPair?_of_key_mem hid
    obtain rfl := hs.framed.id_eq hi
    have hidle := h.idle i.id (hs.framed.order_of_present (hs.framed.present hi)) i hi
    cases hstate : s.state i.id with
    | ready => rfl
    | pending => exact absurd hstate hidle.unpending
    | blocked =>
      rw [hidle.blocked hstate] at hstatus
      cases hstatus
    | running | succeeded | failed | skipped | cancelled =>
      rw [hstate] at hwaits
      cases hwaits
  · intro hready
    obtain ⟨i, rfl, hi⟩ := hs.framed.instance_of_unpending (by rw [hready]; simp)
    refine List.mem_filter.2 ⟨key_mem_of_getPair? hi, ?_⟩
    rw [hready, satisfied_of_succeeded (hs.rooted i hi (by rw [hready]; rfl))]
    rfl

/-- The conditions of ready instances hold, one after the other. -/
theorem readyAmong_of_ready (h₀ : Begun g rows release s₀) (h : Leads s₀ s)
    (going : s.fatal = false) {ids : List String} (hready : ∀ id ∈ ids, s.state id = .ready) :
    (readyAmong ids s).1 = .ok ids := by
  induction ids generalizing s with
  | nil => rfl
  | cons id ids ih =>
    have hs := h₀.coherent h
    have hid := hready id List.mem_cons_self
    obtain ⟨i, rfl, hi⟩ := hs.framed.instance_of_unpending (by rw [hid]; simp)
    have hholds := (h₀.holding h going hi hid).conditionHolds hs going
    have ha := asks_conditionHolds s i
    have hrest := @ih (s.conditionHolds i).2 (h.trans (leads_conditionHolds s i))
      ((fatal_of_flags ha.flags).trans going)
      fun j hj => (ha.state j).trans (hready j (List.mem_cons_of_mem _ hj))
    unfold readyAmong
    rw [hi]
    dsimp only
    rcases hasked : s.conditionHolds i with ⟨answer, v⟩
    rw [hasked] at hholds hrest
    obtain rfl : answer = .ok true := hholds
    dsimp only at hrest ⊢
    rcases hanswer : readyAmong ids v with ⟨rest, w⟩
    rw [hanswer] at hrest
    obtain rfl : rest = .ok ids := hrest
    rfl

/-! ## The law -/

/-- Whenever a run has gone as far as it can, and was neither stopped nor cancelled, the query for
what is ready gives just the instances that are ready. Each of them waits for a gate that is not
decided, or for none, and then there is no room. -/
theorem the_ready_query_gives_just_the_ready_instances (h₀ : Begun g rows release s₀)
    (h : Leads s₀ s) (going : s.advance.halted = false) (unasked : s.advance.superseded = false) :
    ∃ ids, s.advance.ready.1 = .ok ids ∧ ids.Nodup ∧
      (∀ id, id ∈ ids ↔ s.advance.state id = .ready) ∧
      ∀ id ∈ ids, (∃ gid gate, getPair? id s.advance.awaiting = some gid ∧
          s.advance.gates.get? gid = some gate ∧ gate.status = .pending) ∨
        getPair? id s.advance.awaiting = none ∧
          s.advance.maxParallel ≤ s.advance.inFlight.length := by
  have hlead : Leads s₀ s.advance := h.trans (leads_advance s)
  have hbefore := h₀.coherent h
  have hs := h₀.coherent hlead
  have hsettled := settled_advance hbefore.framed hbefore.keyed going unasked
  have hunlocked : ∀ id, id ∈ s.advance.graph.unlocked s.advance.state ↔
      s.advance.state id = .ready := fun _ => hsettled.mem_unlocked_iff hs
  refine ⟨_, readyAmong_of_ready h₀ hlead (unaborted_of_going going)
    fun id hm => (hunlocked id).1 hm, hs.framed.sound.ids_nodup.filter _, hunlocked, ?_⟩
  intro id hm
  have hready := (hunlocked id).1 hm
  obtain ⟨i, rfl, hi⟩ := hs.framed.instance_of_unpending (by rw [hready]; simp)
  have hid := hs.framed.order_of_present (hs.framed.present hi)
  rcases hwaits : getPair? i.id s.advance.awaiting with _ | gid
  · refine Or.inr ⟨rfl, hsettled.full.resolve_right fun hnone => ?_⟩
    have hable : s.advance.startable i.id = true := by simp [startable, hready, hwaits]
    rw [hnone i.id hid] at hable
    cases hable
  · obtain ⟨gate, hgate, hpending⟩ := (hsettled.idle i.id hid i hi).gated gid hready hwaits
    exact Or.inl ⟨gid, gate, rfl, hgate, hpending⟩

/-! ## One worker for a test, a scan and a deployment -/

def queueWorkflow : Workflow where
  name := "ci"
  stages := [
    { name := "build" },
    { name := "test", needs := ["build"] },
    { name := "scan", needs := ["build"] },
    { name := "deploy", needs := ["build"], environment := some "production" }]

/-- The scheduler of a run of it, with one worker. -/
def queueStart : Scheduler :=
  match ({ maxParallel := 1 } : Orchestrator).prepareStart queueWorkflow {} none "r1" 0 0 with
  | (_, .ready s _) => s
  | _ => default

/-- The build has ended. -/
def queueBuilt : Scheduler := (queueStart.begin.endBody "build" .default).2.turn

theorem begun_queueStart : Begun queueStart.graph [] none queueStart := by
  obtain ⟨_, _, ready⟩ : ∃ o group, ({ maxParallel := 1 } : Orchestrator).prepareStart
      queueWorkflow {} none "r1" 0 0 = (o, .ready queueStart group) :=
    Prepared.exists_ready (by decide +kernel)
  exact begun_of_prepareStart ready

theorem leads_queueBuilt : Leads queueStart queueBuilt :=
  ((leads_begin _).trans (leads_endBody _ _ _)).trans (leads_turn _)

/-- While the test runs, the scan waits for its place and the deployment for its gate. -/
theorem the_scan_and_the_deployment_are_ready :
    Begun queueStart.graph [] none queueStart ∧ Leads queueStart queueBuilt ∧
      queueBuilt.advance.halted = false ∧ queueBuilt.advance.superseded = false ∧
      ∃ ids, queueBuilt.advance.ready.1 = .ok ids ∧ "scan" ∈ ids ∧ "deploy" ∈ ids ∧
        "test" ∉ ids ∧ getPair? "scan" queueBuilt.advance.awaiting = none ∧
        getPair? "deploy" queueBuilt.advance.awaiting = some "r1/production" := by
  have going : queueBuilt.advance.halted = false := by decide +kernel
  have unasked : queueBuilt.advance.superseded = false := by decide +kernel
  obtain ⟨ids, hids, _, hmem, _⟩ :=
    the_ready_query_gives_just_the_ready_instances begun_queueStart leads_queueBuilt going unasked
  refine ⟨begun_queueStart, leads_queueBuilt, going, unasked, ids, hids,
    (hmem _).2 (by decide +kernel), (hmem _).2 (by decide +kernel), fun hm => ?_,
    by decide +kernel, by decide +kernel⟩
  have hrunning : queueBuilt.advance.state "test" = .running := by decide +kernel
  rw [(hmem _).1 hm] at hrunning
  cases hrunning

end GatedPipeline.Scheduler
