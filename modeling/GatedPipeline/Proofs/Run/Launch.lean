-- How runs begin. Every scheduler that is prepared for a run of an accepted
-- graph is poised: nothing has happened yet, and an instance is pending unless
-- it succeeded in a recorded run.
import GatedPipeline.Orchestrator
import GatedPipeline.Proofs.Run.Step
namespace GatedPipeline

/-! ## Before the first step -/

/-- A run of an accepted graph in which nothing has happened yet. -/
structure Scheduler.Poised (s : Scheduler) : Prop where
  built : ∃ all, StageGraph.build all = .ok s.graph
  keys : s.run.stages.map (·.1) = s.graph.ids
  states : ∀ p ∈ s.run.stages, p.2.state = .pending ∨ p.2.state = .succeeded
  ended : ∀ q ∈ s.run.outputs.ended, s.state q = .succeeded
  keyed : s.gates.Keyed
  inFlight : s.inFlight = []
  awaiting : s.awaiting = []
  dispatched : s.dispatched = 0
  effects : s.effects = []
  fatal : s.fatal = false
  superseded : s.superseded = false
  crash : s.crash = none

/-- A poised run with every instance pending. No output is there but the tag of a release that was
decided on before. -/
structure Scheduler.Fresh (s : Scheduler) : Prop extends Poised s where
  pending : ∀ p ∈ s.run.stages, p.2.state = .pending
  staged : ∀ q, s.run.outputs.stagedOf q = []
  tag : ∀ v, s.tag? = some v →
    ∃ o, s.decision? = some o ∧ o.decision = .release ∧ v = .text o.tag

namespace Scheduler

variable {s : Scheduler}

/-- Work begins with the gate table and the clock that the host lends. -/
theorem Poised.lend (h : Poised s) {table : GateTable Nat} (hk : table.Keyed) (now : Time) :
    Poised { s with gates := table, now } :=
  { h with keyed := hk }

theorem Fresh.lend (h : Fresh s) {table : GateTable Nat} (hk : table.Keyed) (now : Time) :
    Fresh { s with gates := table, now } :=
  { h with toPoised := h.toPoised.lend hk now }

theorem Poised.state (h : Poised s) (id : String) :
    s.state id = .pending ∨ s.state id = .succeeded := by
  rcases hr : getPair? id s.run.stages with _ | r
  · exact Or.inl (state_of_not_mem (getPair?_eq_none_iff.1 hr))
  · rw [state_eq_of_getPair? hr]
    exact h.states _ (mem_of_getPair? hr)

theorem Fresh.state (h : Fresh s) (id : String) : s.state id = .pending := by
  rcases hr : getPair? id s.run.stages with _ | r
  · exact state_of_not_mem (getPair?_eq_none_iff.1 hr)
  · rw [state_eq_of_getPair? hr]
    exact h.pending _ (mem_of_getPair? hr)

theorem Poised.framed (h : Poised s) : Framed s := by
  obtain ⟨all, hb⟩ := h.built
  refine ⟨StageGraph.build_sound hb, h.keys, fun q hq => ?_⟩
  rw [h.ended q hq]
  rfl

end Scheduler

/-! ## Runs of workflows -/

theorem StageGraph.build_of_ofTemplates {ts : List StageTemplate} {g : StageGraph}
    (h : ofTemplates ts = .ok g) : ∃ all, build all = .ok g := by
  unfold ofTemplates at h
  split at h
  · cases h
  · exact ⟨_, h⟩

namespace Orchestrator
open Scheduler

variable {o o' : Orchestrator} {w : Workflow} {s : Scheduler} {group runId : String} {key : Nat}
  {now : Time} {source : Option VersionSource}

/-! ## Restored runs -/

/-- What a run is like in which recorded successes may have been put back. -/
structure Restored (g : StageGraph) (r : Run) : Prop where
  planned : r.graph = g
  keys : r.stages.map (·.1) = g.ids
  states : ∀ p ∈ r.stages, p.2.state = .pending ∨ p.2.state = .succeeded
  ended : ∀ q ∈ r.outputs.ended, r.state q = .succeeded

/-- Putting back one recorded success. -/
def restoreStage (r : Run) (id : String) (old : StageRecord) : Run :=
  if (r.graph.instance? id).isSome && old.state = .succeeded then
    { r with
      stages := putPair id { r.record id with state := .succeeded, outputs := old.outputs } r.stages
      outputs := r.outputs.restore id old.outputs }
  else r

theorem restoreStages_cons (r : Run) (id : String) (old : StageRecord)
    (rest : List (String × StageRecord)) :
    restoreStages r ((id, old) :: rest) = restoreStages (restoreStage r id old) rest := rfl

theorem state_restoreStage {r : Run} {id : String} {old : StageRecord}
    (hc : ((r.graph.instance? id).isSome && old.state = .succeeded) = true) (j : String) :
    (restoreStage r id old).state j = if j = id then .succeeded else r.state j := by
  simp only [restoreStage, hc, if_true, Run.state, Run.record, getPair?_putPair]
  split <;> rfl

theorem Restored.restoreStage {g : StageGraph} {r : Run} (h : Restored g r) (id : String)
    (old : StageRecord) : Restored g (restoreStage r id old) := by
  by_cases hc : ((r.graph.instance? id).isSome && old.state = .succeeded) = true
  · have hstate := fun j => state_restoreStage hc j
    have hmem : id ∈ r.stages.map (·.1) := by
      rw [h.keys, ← h.planned]
      obtain ⟨i, hi⟩ := Option.isSome_iff_exists.1 (Bool.and_eq_true_iff.1 hc).1
      exact key_mem_of_getPair? hi
    refine ⟨?_, ?_, ?_, ?_⟩
    · simpa [Orchestrator.restoreStage, hc] using h.planned
    · simpa [Orchestrator.restoreStage, hc, keys_putPair_of_mem hmem] using h.keys
    · intro p hp
      simp only [Orchestrator.restoreStage, hc, if_true] at hp
      rcases mem_putPair hp with rfl | hp
      · exact Or.inr rfl
      · exact h.states p hp
    · intro q hq
      rw [hstate]
      split
      · rfl
      · rename_i hne
        simp only [Orchestrator.restoreStage, hc, if_true, OutputStore.restore,
          OutputStore.markEnded] at hq
        refine h.ended q ?_
        split at hq
        · exact hq
        · dsimp only at hq
          split at hq
          · exact hq
          · exact (List.mem_append.1 hq).resolve_right fun he => hne (List.mem_singleton.1 he)
  · rwa [Orchestrator.restoreStage, if_neg hc]

theorem Restored.restoreStages {g : StageGraph} (stages : List (String × StageRecord))
    {r : Run} (h : Restored g r) : Restored g (restoreStages r stages) := by
  induction stages generalizing r with
  | nil => exact h
  | cons p stages ih => exact ih (h.restoreStage p.1 p.2)

theorem restored_new {id workflow : String} {trigger : Trigger} {g : StageGraph} {now : Time} :
    Restored g (Run.new id trigger workflow g now) where
  planned := rfl
  keys := by simp [Run.new, Function.comp_def]
  states := by
    intro p hp
    obtain ⟨j, _, rfl⟩ := List.mem_map.1 hp
    exact Or.inl rfl
  ended := by intro q hq; cases hq

/-- A success that was put back stays. -/
theorem succeeded_restoreStages (stages : List (String × StageRecord)) {r : Run} {id : String}
    (h : r.state id = .succeeded) : (restoreStages r stages).state id = .succeeded := by
  induction stages generalizing r with
  | nil => exact h
  | cons p stages ih =>
    refine ih (r := restoreStage r p.1 p.2) ?_
    by_cases hc : ((r.graph.instance? p.1).isSome && p.2.state = .succeeded) = true
    · rw [state_restoreStage hc]
      split
      · rfl
      · exact h
    · rwa [restoreStage, if_neg hc]

/-- When no success was put back, nothing was. -/
theorem restoreStages_of_pending (stages : List (String × StageRecord)) {r : Run}
    (h : ∀ id, (restoreStages r stages).state id ≠ .succeeded) : restoreStages r stages = r := by
  induction stages generalizing r with
  | nil => rfl
  | cons p stages ih =>
    obtain ⟨id, old⟩ := p
    rw [restoreStages_cons] at h ⊢
    have hc : ¬ ((r.graph.instance? id).isSome && old.state = .succeeded) = true := by
      intro hc
      exact h id (succeeded_restoreStages stages (by rw [state_restoreStage hc, if_pos rfl]))
    rw [restoreStage, if_neg hc] at h ⊢
    exact ih h

theorem Restored.restoreRelease {g : StageGraph} {r : Run} (h : Restored g r)
    (outcome : ReleaseOutcome) : Restored g (restoreRelease r outcome) := by
  unfold Orchestrator.restoreRelease
  split
  · exact { h with }
  · exact h

/-- A scheduler that has done nothing is poised for a restored run. -/
theorem Restored.poised {g : StageGraph} {r : Run} (h : Restored g r)
    (hb : ∃ all, StageGraph.build all = .ok g) (s : Scheduler)
    (hs : s = {
      run := r, now := s.now, self := s.self, maxParallel := s.maxParallel
      failFast := s.failFast, gateTimeout := s.gateTimeout, engine := s.engine }) : Poised s := by
  rw [hs]
  exact {
    built := by rw [Scheduler.graph, h.planned]; exact hb
    keys := by rw [Scheduler.graph, h.planned]; exact h.keys
    states := h.states, ended := h.ended
    keyed := by intro id g hg; cases hg
    inFlight := rfl, awaiting := rfl, dispatched := rfl, effects := rfl, fatal := rfl
    superseded := rfl, crash := rfl }

theorem fresh_of_pending {s : Scheduler} (h : Poised s) (hp : ∀ id, s.state id = .pending)
    (hs : ∀ q, s.run.outputs.stagedOf q = [])
    (ht : ∀ v, s.tag? = some v →
      ∃ o, s.decision? = some o ∧ o.decision = .release ∧ v = .text o.tag) : Fresh s := by
  refine { h with pending := fun p hm => ?_, staged := hs, tag := ht }
  obtain ⟨all, hb⟩ := h.built
  have hnodup : (s.run.stages.map (·.1)).Nodup := h.keys ▸ (StageGraph.build_sound hb).ids_nodup
  rw [← state_eq_of_getPair? (getPair?_of_mem hnodup hm)]
  exact hp p.1

/-! ## Starting and resuming -/

/-- A new run is fresh. -/
theorem fresh_new {id workflow : String} {trigger : Trigger} {g : StageGraph} {now : Time}
    (hb : ∃ all, StageGraph.build all = .ok g) (s : Scheduler)
    (hs : s = {
      run := Run.new id trigger workflow g now, now := s.now, self := s.self
      maxParallel := s.maxParallel, failFast := s.failFast, gateTimeout := s.gateTimeout
      engine := s.engine }) : Fresh s := by
  refine fresh_of_pending (restored_new.poised hb s hs) (fun j => ?_) (fun q => ?_) (fun v hv => ?_)
  · rcases hr : getPair? j s.run.stages with _ | r
    · exact state_of_not_mem (getPair?_eq_none_iff.1 hr)
    · rw [state_eq_of_getPair? hr]
      have hm := mem_of_getPair? hr
      rw [hs] at hm
      obtain ⟨_, _, he⟩ := List.mem_map.1 hm
      cases he
      rfl
  · rw [hs]; rfl
  · rw [hs] at hv; cases hv

/-- The trigger of a run, as it is recorded: it names the workflow. -/
def namedTrigger (w : Workflow) (t : Trigger) : Trigger :=
  if t.workflow = "" then { t with workflow := w.name } else t

@[simp] theorem store_attachPolicies (o : Orchestrator) (w : Workflow) :
    (o.attachPolicies w).store = o.store := by
  unfold attachPolicies
  generalize w.approvals = as
  induction as generalizing o with
  | nil => rfl
  | cons a as ih =>
    rw [List.foldl_cons, ih]
    dsimp only
    split <;> rfl

/-- What a run that is started is: the plan of the workflow with nothing done, and entered into the
store, if there is one. The approval policies of the workflow are attached to the gate table. -/
theorem prepareStart_ready {t : Trigger}
    (h : o.prepareStart w t source runId key now = (o', .ready s group)) :
    ∃ g, w.plan = .ok g ∧
      s = (o.attachPolicies w).schedulerFor w (Run.new runId (namedTrigger w t) w.name g now)
        (source.map fun source => { source }) key now ∧
      o'.gates = (o.attachPolicies w).gates ∧
      ∀ st, o.store = some st → ∃ st',
        st.createRun runId (namedTrigger w t) w.name group now = .ok st' ∧ o'.store = some st' := by
  unfold prepareStart at h
  dsimp only at h
  rw [show (if t.workflow = "" then { t with workflow := w.name } else t) = namedTrigger w t
    from rfl, store_attachPolicies] at h
  generalize namedTrigger w t = t' at h ⊢
  split at h
  · cases h
  · cases h
  · split at h
    · cases h
    · rename_i graph hplan
      refine ⟨graph, hplan, ?_⟩
      split at h
      · rename_i hnone
        cases h
        refine ⟨rfl, rfl, fun st hst => ?_⟩
        rw [hnone] at hst
        cases hst
      · rename_i store hstore
        split at h
        · cases h
        · rename_i store' hcreate
          cases h
          refine ⟨rfl, rfl, fun st hst => ?_⟩
          rw [hstore] at hst
          cases hst
          exact ⟨store', hcreate, rfl⟩

/-- A run that is started is fresh. -/
theorem fresh_prepareStart {t : Trigger}
    (h : o.prepareStart w t source runId key now = (o', .ready s group)) : Fresh s := by
  obtain ⟨g, hplan, rfl, _⟩ := prepareStart_ready h
  exact fresh_new (StageGraph.build_of_ofTemplates hplan) _ rfl

/-- An engine decides nothing before it is asked. -/
theorem outcome_of_source (source : Option VersionSource) :
    (source.map fun source => ({ source } : ReleaseEngine)).bind (·.outcome) = none := by
  cases source <;> rfl

/-- The scheduler of a resumed run has done nothing, and has the recorded successes and the recorded
release decision. -/
theorem prepareResume_ready
    (h : o.prepareResume w source runId key now = (o', .ready s group)) :
    ∃ g t stages, (∃ all, StageGraph.build all = .ok g) ∧
      s = { run := s.run, now := s.now, self := s.self, maxParallel := s.maxParallel
            failFast := s.failFast, gateTimeout := s.gateTimeout, engine := s.engine } ∧
      (s.run = restoreStages (Run.new runId t w.name g now) stages ∧ s.decision? = none ∨
        ∃ outcome, s.decision? = some outcome ∧ s.run =
          restoreRelease (restoreStages (Run.new runId t w.name g now) stages) outcome) := by
  unfold prepareResume at h
  split at h
  · cases h
  · split at h
    · cases h
    · rename_i old _
      dsimp only at h
      split at h
      · cases h
      · rename_i g hplan
        have hb := StageGraph.build_of_ofTemplates hplan
        split at h
        · cases h
          exact ⟨g, old.row.trigger, old.stages, hb, rfl, Or.inl ⟨rfl, outcome_of_source _⟩⟩
        · cases h
        · rename_i outcome source _
          cases h
          exact ⟨g, old.row.trigger, old.stages, hb, rfl, Or.inr ⟨outcome, rfl, rfl⟩⟩

/-- A run that is resumed is poised. -/
theorem poised_prepareResume
    (h : o.prepareResume w source runId key now = (o', .ready s group)) : Poised s := by
  obtain ⟨g, t, stages, hb, hs, hrun⟩ := prepareResume_ready h
  have hr := (@restored_new runId w.name t g now).restoreStages stages
  rcases hrun with ⟨hrun, _⟩ | ⟨outcome, _, hrun⟩
  · exact (hrun ▸ hr : Restored g s.run).poised hb s hs
  · exact (hrun ▸ hr.restoreRelease outcome : Restored g s.run).poised hb s hs

/-- A run that is resumed is fresh if none of its instances had succeeded. -/
theorem fresh_prepareResume
    (h : o.prepareResume w source runId key now = (o', .ready s group))
    (hp : ∀ id, s.state id = .pending) : Fresh s := by
  have hpoised := poised_prepareResume h
  obtain ⟨g, t, stages, _, _, hrun⟩ := prepareResume_ready h
  have hnew : restoreStages (Run.new runId t w.name g now) stages =
      Run.new runId t w.name g now := by
    refine restoreStages_of_pending stages fun id hs => ?_
    have hsame : s.state id = (restoreStages (Run.new runId t w.name g now) stages).state id := by
      rcases hrun with ⟨hrun, _⟩ | ⟨outcome, _, hrun⟩
      · rw [Scheduler.state, hrun]
      · rw [Scheduler.state, hrun, restoreRelease]
        split <;> rfl
    have hpending := hp id
    rw [hsame, hs] at hpending
    cases hpending
  rw [hnew] at hrun
  rcases hrun with ⟨hrun, _⟩ | ⟨outcome, hd, hrun⟩
  · refine fresh_of_pending hpoised hp (fun q => by rw [hrun]; rfl) fun v hv => ?_
    rw [tag?, hrun] at hv
    cases hv
  · refine fresh_of_pending hpoised hp (fun q => ?_) fun v hv => ?_
    · rw [hrun, restoreRelease]
      split <;> rfl
    · rw [tag?, hrun, restoreRelease] at hv
      split at hv
      · rename_i hrel
        exact ⟨outcome, hd, hrel, (Option.some.inj hv).symm⟩
      · cases hv

end Orchestrator

/-- Whether the attempt to start or to resume a run has given a scheduler. -/
def Prepared.isReady : Prepared → Bool
  | .ready _ _ => true
  | _ => false

theorem Prepared.exists_ready {p : Orchestrator × Prepared} (h : p.2.isReady = true) :
    ∃ o group, p = (o, .ready (match p with
      | (_, .ready s _) => s
      | _ => default) group) := by
  obtain ⟨o, prepared⟩ := p
  cases prepared with
  | notTriggered | failed => cases h
  | ready s group => exact ⟨o, group, rfl⟩

/-! ## A release -/

namespace Scheduler

/-- A workflow that builds an image, and releases it once someone approves. -/
def shipWorkflow : Workflow where
  name := "ship"
  stages := [
    { name := "build", outputs := ["image"] },
    { name := "deploy", needs := ["build"], inputs := ["build.image", "release_tag"]
      environment := some "prod", release := true }]

/-- The scheduler of a run of it. -/
def shipStart : Scheduler :=
  match ({} : Orchestrator).prepareStart shipWorkflow {} (some (.fixed "1.2.0" none)) "r1" 0 0 with
  | (_, .ready s _) => s
  | _ => default

/-- The image is built, and the release waits for its gate. -/
def shipWaiting : Scheduler := (shipStart.begin.endBody "build" .default).2.turn

/-- The gate is approved, and the release goes on. -/
def shipReleasing : Scheduler :=
  match shipWaiting.gates.decide "r1/prod" (.status .approved) "ann" "" 1 with
  | .ok c => ({ shipWaiting with gates := c.table }.deliver c.notices).turn
  | .error _ => shipWaiting

theorem prepareStart_shipStart : ∃ o' group, ({} : Orchestrator).prepareStart shipWorkflow {}
    (some (.fixed "1.2.0" none)) "r1" 0 0 = (o', .ready shipStart group) :=
  Prepared.exists_ready (by decide +kernel)

theorem fresh_shipStart : Fresh shipStart := by
  obtain ⟨_, _, h⟩ := prepareStart_shipStart
  exact Orchestrator.fresh_prepareStart h

theorem leads_shipWaiting : Leads shipStart shipWaiting :=
  ((leads_begin _).trans (leads_endBody _ _ _)).trans (leads_turn _)

theorem leads_shipReleasing : Leads shipStart shipReleasing := by
  unfold shipReleasing
  split
  · rename_i c hc
    exact (leads_shipWaiting.trans (Step.gates (.decide hc) c.notices).leads).trans (leads_turn _)
  · exact leads_shipWaiting

end Scheduler

end GatedPipeline
