-- In a world where all answer alike, a run that was stopped and taken up any
-- number of times comes to the same end as one that was never interrupted.
import GatedPipeline.Proofs.Run.Resume
import GatedPipeline.Proofs.Run.Schedule
namespace GatedPipeline.World
open GatedPipeline.Scheduler

variable {w : World} {wf : Workflow} {t : Trigger} {runId : String} {g : StageGraph}
  {trigger : Trigger} {rows : List (String × StageRecord)} {release : Option ReleaseOutcome}
  {s₀ s : Scheduler} {base st st' : RunStore}

/-! ## Executions in the world -/

/-- A part of a run in a world, in which the run is neither aborted nor cancelled. -/
structure Plays (w : World) (s₀ s : Scheduler) : Prop where
  hosts : w.Hosts s₀
  holds : w.Holds s₀
  within : w.Within s₀ s
  calm : s.Calm

/-- A prepared run is executed to its end, and does not break off. -/
def Completes (w : World) (s₀ s : Scheduler) : Prop :=
  ∃ table clock, table.Keyed ∧ w.Plays { s₀ with gates := table, now := clock } s ∧
    s.crash = none ∧ s.run.finished = true

/-- What is recorded agrees with the reference: a success is a fate, with its outputs, and the
decision is that of the world. -/
structure Fated (w : World) (g : StageGraph) (trigger : Trigger)
    (rows : List (String × StageRecord)) (release : Option ReleaseOutcome) : Prop where
  success : ∀ id r, success? rows id = some r → (w.fate g trigger id).state = .succeeded ∧
    ∀ k, OwnKey id k → getPair? k r.outputs = getPair? k (w.fate g trigger id).outputs
  release : ∀ o, release = some o → w.outcome = some o

theorem fated_nil : w.Fated g trigger [] none :=
  ⟨fun _ _ h => (by cases h), fun _ h => (by cases h)⟩

/-! ## Taking up a run -/

/-- An instance whose fate is to succeed does so with what its body reports. -/
theorem exists_report {i : Instance} (hg : g.Sound) (hi : g.instance? i.id = some i)
    (h : (w.fate g trigger i.id).state = .succeeded) : ∃ r, w.Reports g trigger i.id r := by
  rcases w.fate_cases trigger hg hi with he | ⟨st, hst, he⟩
  · exact ⟨_, i, hi, status_of_ending (he ▸ h), he⟩
  · rw [he] at h
    exact absurd h hst

/-- A run that is taken up agrees with the reference if what is recorded of it does. -/
theorem Fated.agrees (h : w.Fated g trigger rows release) (hs : Revives g rows release s)
    (hk : Kept g rows release) (ht : s.run.trigger = trigger) : w.Agrees g trigger s where
  planned := hs.planned
  triggered := ht
  flows := by
    have hg : g.Sound := hs.planned ▸ hs.framed.sound
    refine hs.flows_of_reports hk fun i r hi hr hfits => ?_
    obtain ⟨hstate, houtputs⟩ := h.success i.id r hr
    obtain ⟨report, j, hj, hgood, hfate⟩ := exists_report hg hi hstate
    obtain rfl := Option.some.inj (hi.symm.trans hj)
    refine ⟨report, ⟨i, hi, hgood, hfate⟩, fun k hkey => ?_⟩
    obtain ⟨hrun, x, hx⟩ := hfits.declared k hkey
    have hrecord := houtputs k fun he => absurd he hrun
    rw [hfate, getPair?_ending report hgood, if_pos hkey] at hrecord
    rcases hv : getPair? k report.outputs with _ | v
    · rw [hv, hx] at hrecord
      cases hrecord
    · rw [hv] at hrecord
      exact ⟨v, rfl, hrecord⟩
  bare := hs.bare hk
  rooted := hs.rooted hk
  tidy := hs.tidy
  stands := by
    intro i hi
    rcases hs.toPoised.state i.id with hp | hsucceeded
    · exact stands_of_unready (by rw [hp]; rfl) (by rw [hp]; simp) (by rw [hp]; simp)
    · obtain ⟨r, hr⟩ := hs.isSome_of_succeeded hsucceeded
      exact stands_of_ended (by rw [hsucceeded]; rfl)
        (hsucceeded.trans (h.success i.id r hr).1.symm)
  awaits := by
    intro id gid hgid
    rw [hs.awaiting] at hgid
    cases hgid

theorem Fated.suits (h : w.Fated g trigger rows release) (hs : Revives g rows release s)
    (hh : w.Hosts s) : w.Suits s :=
  { hh with decision := fun o ho => h.release o (hs.decision.symm.trans ho) }

/-- A run that is taken up agrees with the reference as long as it plays in the world. -/
theorem Plays.agrees (hp : w.Plays s₀ s) (h : w.Fated g trigger rows release)
    (hs : Revives g rows release s₀) (hk : Kept g rows release) (ht : s₀.run.trigger = trigger) :
    w.Agrees g trigger s ∧ w.Suits s := by
  obtain ⟨hagrees, hsuits, _⟩ := hp.within.agrees hs.toPoised (h.suits hs hp.hosts) hp.holds
    (h.agrees hs hk ht) hp.calm
  exact ⟨hagrees, hsuits⟩

/-! ## What is recorded agrees with the reference -/

/-- The process may stop at any time: what is recorded then agrees with the reference. -/
theorem fated_of_cut (hcut : Cut w.Plays runId s base st) (h : w.Fated g trigger rows release)
    (hs : Revives g rows release s) (hk : Kept g rows release) (hid : s.run.id = runId)
    (ht : s.run.trigger = trigger) (hrows : base.rows runId = rows)
    (hrelease : base.release? runId = release) :
    w.Fated g trigger (st.rows runId) (st.release? runId) := by
  obtain ⟨table, clock, s', ws, hkeyed, hplays, hws, hrecorded⟩ := hcut
  obtain ⟨hst, hstRelease, _⟩ := hrecorded.spec
  have hlent := hs.lend hkeyed clock
  have hleads := hplays.within.leads
  have hsteady := hleads.steady hlent.framed hlent.keyed
  have hrun : s'.run.id = runId := hsteady.runId.trans hid
  have hmirror := hleads.mirrors hlent hk
  have hg : g.Sound := hs.planned ▸ hs.framed.sound
  obtain ⟨hagrees, hsuits⟩ := hplays.agrees h hlent hk ht
  have hcalm : s'.fatal = false := congrArg Prod.fst hplays.calm
  rw [hst, hstRelease, hrows, hrelease, ← hrun]
  refine ⟨fun id r hr => ?_, fun o ho => ?_⟩
  · -- what is recorded now is recorded at the end, where the run mirrors its journal
    have hend := hmirror.grows ws hws id r hr
    have hsucceeded := (hmirror.state id).2 (by rw [hend]; rfl)
    obtain ⟨i, hi, _⟩ := (hmirror.kept _ List.prefix_rfl).known id r hend
    rw [hagrees.planned] at hi
    obtain rfl := hg.instance_id hi
    refine ⟨?_, fun k hkey => ?_⟩
    · rw [← hagrees.state_eq hg (key_mem_of_getPair? hi) (by rw [hsucceeded]; rfl), hsucceeded]
    · rw [← hagrees.peek?_of_succeeded hg hcalm hi hsucceeded hkey,
        hmirror.visible hcalm i.id k hkey, hend]
      rfl
  · exact hsuits.decision o
      (decision_of_recorded hlent.effects hlent.decision hsteady hws ho)

theorem Plays.leads (h : w.Plays s₀ s) : Leads s₀ s := h.within.leads

/-- However often the process stopped, what is recorded agrees with the reference. -/
theorem fated_of_history (h : History w.Plays wf t runId st) (hplan : wf.plan = .ok g) :
    w.Fated g (Orchestrator.namedTrigger wf t) (st.rows runId) (st.release? runId) := by
  induction h with
  | start found unknown ready after cut =>
    obtain ⟨g', hplan', hs, _, hstore⟩ := Orchestrator.prepareStart_ready ready
    obtain rfl := Except.ok.inj (hplan.symm.trans hplan')
    obtain ⟨base, hcreate, hbase⟩ := hstore _ found
    rw [hbase] at after
    cases after
    obtain ⟨hrows, hrelease, _⟩ := RunStore.sameRun_createRun hcreate
    exact fated_of_cut cut fated_nil (Orchestrator.revives_prepareStart hplan ready) (kept_nil g)
      (by rw [hs]; rfl) (by rw [hs]; rfl) (hrows.trans unknown.1) (hrelease.trans unknown.2)
  | resume before next ih =>
    obtain ⟨g', hplan', hk, htrigger⟩ := (before.mono fun _ _ hp => hp.leads).kept
    obtain rfl := Except.ok.inj (hplan.symm.trans hplan')
    obtain ⟨found, ready, after, cut⟩ := next
    obtain ⟨hid, ht, hstore⟩ := Orchestrator.prepareResume_frame found ready
    rw [hstore] at after
    cases after
    have hsame := RunStore.sameRun_reopenRun runId
    exact fated_of_cut cut ih (Orchestrator.revives_prepareResume found hplan hk ready) hk hid
      (Option.some.inj (ht.symm.trans htrigger)) (hsame _ _ _).rows (hsame _ _ _).release

/-! ## The law -/

/-- A run that is taken up and executed to its end comes to what the reference says. -/
theorem Completes.agrees (h : w.Completes s₀ s) (hfated : w.Fated g trigger rows release)
    (hs : Revives g rows release s₀) (hk : Kept g rows release) (ht : s₀.run.trigger = trigger) :
    (∀ i, g.instance? i.id = some i → s.state i.id = (w.fate g trigger i.id).state ∧
      ∀ k, OwnKey i.id k →
        s.run.outputs.peek? i.id k = getPair? k (w.fate g trigger i.id).outputs) ∧
    s.finish.run.status = w.status g trigger := by
  obtain ⟨table, clock, hkeyed, hplays, hwhole, hdone⟩ := h
  have hlent := hs.lend hkeyed clock
  obtain ⟨hagrees, _⟩ := hplays.agrees hfated hlent hk ht
  have hg : g.Sound := hs.planned ▸ hs.framed.sound
  obtain ⟨hf, _⟩ := hplays.leads.framed hlent.framed hlent.keyed
  exact ⟨fun i hi => ⟨hagrees.state_of_finished hg hf hdone (key_mem_of_getPair? hi),
    fun k hkey => hagrees.peek?_of_finished hg hf (congrArg Prod.fst hplays.calm) hdone hi hkey⟩,
    hagrees.status_eq hg hf hplays.calm hwhole hdone⟩

/-- In a world where all answer alike, a run may be stopped after any part of its journal and taken up
again, any number of times: when it is executed to its end, every instance ends in the same state
with the same outputs, and the run with the same status, as in a run that was never interrupted. Of
what is visible this leaves out the tag of the run, which is no output of an instance. -/
theorem a_resumed_run_comes_to_the_same_end (h : History w.Plays wf t runId st)
    {o o' : Orchestrator} {source : Option VersionSource} {key : Nat} {now : Time} {group : String}
    (found : o.store = some st)
    (ready : o.prepareResume wf source runId key now = (o', .ready s₀ group))
    (completes : w.Completes s₀ s)
    {p p' : Orchestrator} {source' : Option VersionSource} {runId' : String} {key' : Nat}
    {now' : Time} {group' : String} {u₀ u : Scheduler}
    (ready' : p.prepareStart wf t source' runId' key' now' = (p', .ready u₀ group'))
    (completes' : w.Completes u₀ u) :
    s.graph = u.graph ∧
    (∀ i, u.graph.instance? i.id = some i → s.state i.id = u.state i.id ∧
      ∀ k, OwnKey i.id k → s.run.outputs.peek? i.id k = u.run.outputs.peek? i.id k) ∧
    s.finish.run.status = u.finish.run.status := by
  obtain ⟨g, hplan, hk, htrigger⟩ := (h.mono fun _ _ hp => hp.leads).kept
  have hfated := fated_of_history h hplan
  obtain ⟨_, ht, _⟩ := Orchestrator.prepareResume_frame found ready
  have hs := Orchestrator.revives_prepareResume found hplan hk ready
  have hu := Orchestrator.revives_prepareStart hplan ready'
  obtain ⟨_, _, hstart, _⟩ := Orchestrator.prepareStart_ready ready'
  obtain ⟨hends, hstatus⟩ := completes.agrees hfated hs hk
    (Option.some.inj (ht.symm.trans htrigger))
  obtain ⟨hends', hstatus'⟩ := completes'.agrees fated_nil hu (kept_nil g) (by rw [hstart])
  have hgraph : ∀ {v₀ v rows release}, Revives g rows release v₀ → w.Completes v₀ v →
      v.graph = g := by
    rintro v₀ v rows release hv ⟨table, clock, hkeyed, hplays, _⟩
    have hlent := hv.lend hkeyed clock
    exact (hplays.leads.steady hlent.framed hlent.keyed).graph.trans hv.planned
  have hug := hgraph hu completes'
  refine ⟨(hgraph hs completes).trans hug.symm, fun i hi => ?_, hstatus.trans hstatus'.symm⟩
  rw [hug] at hi
  obtain ⟨hstate, houtputs⟩ := hends i hi
  obtain ⟨hstate', houtputs'⟩ := hends' i hi
  exact ⟨hstate.trans hstate'.symm, fun k hkey => (houtputs k hkey).trans (houtputs' k hkey).symm⟩

/-! ## A release without a gate -/

/-- A workflow that builds an image and releases it. -/
def sendWorkflow : Workflow where
  name := "send"
  stages := [
    { name := "build", outputs := ["image"] },
    { name := "deploy", needs := ["build"], inputs := ["build.image", "release_tag"]
      release := true }]

/-- What happens to the image, and what happens to its release. -/
def buildDeeds : List Deed := [.look "build", .start "build", .finish "build"]

def deployDeeds : List Deed := [.look "deploy", .start "deploy", .finish "deploy"]

/-- The scheduler that was prepared. -/
def schedulerOf : Orchestrator × Prepared → Scheduler
  | (_, .ready s _) => s
  | _ => default

/-- A run of the workflow. -/
def sendStart : Orchestrator × Prepared :=
  shipHost.prepareStart sendWorkflow {} (some (.fixed "1.2.0" none)) "r1" 0 0

/-- What the store has when the process stops after the image was built. -/
def sendStored : RunStore :=
  match buildDeeds.foldlM shipWorld.perform (schedulerOf sendStart) with
  | some s => s.writes.foldl (fun st w => st.apply 0 w) (sendStart.1.store.getD {})
  | none => {}

/-- The run, taken up again. -/
def sendResumed : Orchestrator × Prepared :=
  Orchestrator.prepareResume { store := some sendStored } sendWorkflow
    (some (.fixed "1.2.0" none)) "r1" 0 5

theorem ready_of_engine {r : Orchestrator × Prepared}
    (h : (schedulerOf r).engine.isSome = true) : ∃ group, r = (r.1, .ready (schedulerOf r) group) := by
  obtain ⟨o, p⟩ := r
  cases p with
  | notTriggered | failed => cases h
  | ready s group => exact ⟨group, rfl⟩

/-- Deeds that are done one after the other are a part of a run in the world. -/
theorem plays_of_deeds {ds : List Deed} (hosts : w.Hosts s₀) (hsettled : w.settled s₀ = true)
    (h : ds.foldlM w.perform s₀ = some s) (calm : s.Calm) : w.Plays s₀ s :=
  ⟨hosts, holds_of_settled hsettled, (within_schedule (holds_of_settled hsettled) h).1, calm⟩

/-- The run is executed to its end by the deeds. -/
theorem completes_of_deeds (ds : List Deed) (hosts : w.Hosts s₀) (hkeyed : s₀.gates.Keyed)
    (hsettled : w.settled s₀ = true) (h : (ds.foldlM w.perform s₀).any (fun s =>
      s.flags = (false, false) && s.crash.isNone && s.run.finished) = true) :
    ∃ s, ds.foldlM w.perform s₀ = some s ∧ w.Completes s₀ s := by
  rcases hs : ds.foldlM w.perform s₀ with _ | s
  · rw [hs] at h
    cases h
  · rw [hs] at h
    simp only [Option.any_some, Bool.and_eq_true, decide_eq_true_eq, Option.isNone_iff_eq_none] at h
    exact ⟨s, rfl, s₀.gates, s₀.now, hkeyed, plays_of_deeds hosts hsettled hs h.1.1, h.1.2, h.2⟩

theorem history_sendStored : shipWorld.Hosts (schedulerOf sendStart) ∧
    (schedulerOf sendStart).gates.Keyed ∧
    History shipWorld.Plays sendWorkflow {} "r1" sendStored := by
  obtain ⟨group, ready⟩ := ready_of_engine (r := sendStart) (by decide +kernel)
  obtain ⟨g, hplan, hs, _⟩ := Orchestrator.prepareStart_ready ready
  have hosts : shipWorld.Hosts (schedulerOf sendStart) :=
    hosts_of_source (.fixed "1.2.0" none) (by rw [hs]; rfl) (fun _ => rfl)
      (by decide +kernel) (by decide +kernel)
  have hkeyed := (Orchestrator.revives_prepareStart hplan ready).keyed
  have hbase : sendStart.1.store.isSome = true := by decide +kernel
  obtain ⟨base, hbase⟩ := Option.isSome_iff_exists.1 hbase
  have hbuilt : (buildDeeds.foldlM shipWorld.perform (schedulerOf sendStart)).any
      (fun s => s.flags = (false, false)) = true := by decide +kernel
  refine ⟨hosts, hkeyed, ?_⟩
  unfold sendStored
  rcases hdeeds : buildDeeds.foldlM shipWorld.perform (schedulerOf sendStart) with _ | s
  · rw [hdeeds] at hbuilt
    cases hbuilt
  · rw [hdeeds, Option.any_some, decide_eq_true_eq] at hbuilt
    refine .start rfl ⟨rfl, rfl⟩ ready hbase ⟨(schedulerOf sendStart).gates,
      (schedulerOf sendStart).now, s, _, hkeyed,
      plays_of_deeds hosts (by decide +kernel) hdeeds hbuilt, List.prefix_rfl, ?_⟩
    rw [hbase]
    exact RunStore.recorded_foldl "r1" base 0 s.writes

/-- The image that was built before the process stopped is released just as if it had gone on, and
not built again. -/
theorem the_image_is_sent_as_if_nothing_had_happened :
    History shipWorld.Plays sendWorkflow {} "r1" sendStored ∧
      ∃ s u, shipWorld.Completes (schedulerOf sendResumed) s ∧
        shipWorld.Completes (schedulerOf sendStart) u ∧ s.started = ["deploy"] ∧
        u.started = ["build", "deploy"] ∧ s.state "deploy" = u.state "deploy" ∧
        s.finish.run.status = u.finish.run.status := by
  obtain ⟨hosts, hkeyed, hhistory⟩ := history_sendStored
  obtain ⟨group, ready⟩ := ready_of_engine (r := sendStart) (by decide +kernel)
  obtain ⟨group', resumed⟩ := ready_of_engine (r := sendResumed) (by decide +kernel)
  obtain ⟨g, t, hplan, ht, ⟨engine, hs, hsource, _⟩, _⟩ :=
    Orchestrator.prepareResume_eq rfl resumed
  have hosts' : shipWorld.Hosts (schedulerOf sendResumed) :=
    hosts_of_source (.fixed "1.2.0" none) (by rw [hs]; exact hsource) (fun _ => rfl)
      (by decide +kernel) (by decide +kernel)
  have hkeyed' := (Orchestrator.poised_prepareResume resumed).keyed
  obtain ⟨s, hs, hcompletes⟩ := completes_of_deeds deployDeeds hosts' hkeyed'
    (by decide +kernel) (by decide +kernel)
  obtain ⟨u, hu, hcompletes'⟩ := completes_of_deeds (buildDeeds ++ deployDeeds) hosts hkeyed
    (by decide +kernel) (by decide +kernel)
  obtain ⟨_, hends, hstatus⟩ := a_resumed_run_comes_to_the_same_end hhistory
    (o := { store := some sendStored }) rfl resumed hcompletes ready hcompletes'
  have hstarted : (deployDeeds.foldlM shipWorld.perform (schedulerOf sendResumed)).any
      (fun s => s.started = ["deploy"]) = true := by decide +kernel
  have hstarted' : ((buildDeeds ++ deployDeeds).foldlM shipWorld.perform
      (schedulerOf sendStart)).any (fun u => u.started = ["build", "deploy"] &&
        (u.graph.instance? "deploy").any fun i => i.id = "deploy") = true := by decide +kernel
  rw [hs, Option.any_some, decide_eq_true_eq] at hstarted
  rw [hu, Option.any_some, Bool.and_eq_true, decide_eq_true_eq, Option.any_eq_true] at hstarted'
  obtain ⟨hstarted', i, hi, hid⟩ := hstarted'
  have hid := of_decide_eq_true hid
  have hend := (hends i (by rw [hid]; exact hi)).1
  rw [hid] at hend
  exact ⟨hhistory, s, u, hcompletes, hcompletes', hstarted, hstarted', hend, hstatus⟩

end GatedPipeline.World
