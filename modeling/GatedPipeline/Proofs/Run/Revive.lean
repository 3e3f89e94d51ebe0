-- What a run starts from when it is taken up: just the instances that the
-- store has as succeeded have succeeded, with the outputs that it has of them,
-- and a recorded release decision is the decision of the run.
import GatedPipeline.Proofs.Run.Visible
import GatedPipeline.Proofs.Store.Rows
namespace GatedPipeline
open Scheduler

/-! ## What is recorded -/

/-- The record of a success has each declared output, as text, and nothing else. -/
structure Fits (i : Instance) (r : StageRecord) : Prop where
  nodup : (r.outputs.map (·.1)).Nodup
  declared : ∀ k ∈ i.template.outputs,
    i.id ≠ runScope ∧ ∃ x, getPair? k r.outputs = some (.text x)
  others : ∀ k, k ∉ i.template.outputs → getPair? k r.outputs = none

/-- The recorded success of an instance. -/
def success? (rows : List (String × StageRecord)) (id : String) : Option StageRecord :=
  (getPair? id rows).filter (·.state = .succeeded)

/-- What is recorded of a run hangs together: an instance has succeeded only after all that it depends
on, and, if it releases, after the decision to release. -/
structure Kept (g : StageGraph) (rows : List (String × StageRecord))
    (release : Option ReleaseOutcome) : Prop where
  nodup : (rows.map (·.1)).Nodup
  known : ∀ id r, success? rows id = some r → ∃ i, g.instance? id = some i ∧ Fits i r
  closed : ∀ id r, success? rows id = some r → ∀ d ∈ g.dependencies id,
    (success? rows d).isSome = true
  release : ∀ i r, g.instance? i.id = some i → success? rows i.id = some r →
    i.template.release = true → ∃ o, release = some o ∧ o.decision = .release

variable {g : StageGraph} {rows : List (String × StageRecord)} {release : Option ReleaseOutcome}
  {s : Scheduler}

theorem success?_eq_some {id : String} {r : StageRecord} :
    success? rows id = some r ↔ getPair? id rows = some r ∧ r.state = .succeeded := by
  rw [success?, Option.filter_eq_some_iff]
  simp

theorem kept_nil (g : StageGraph) : Kept g [] none where
  nodup := List.nodup_nil
  known := by intro id r h; cases h
  closed := by intro id r h; cases h
  release := by intro i r _ h; cases h

/-- A run that has nothing but what is recorded. -/
structure Scheduler.Revives (g : StageGraph) (rows : List (String × StageRecord))
    (release : Option ReleaseOutcome) (s : Scheduler) : Prop extends Poised s where
  planned : s.graph = g
  state : ∀ id, s.state id = if (success? rows id).isSome then .succeeded else .pending
  visible : ∀ id k, OwnKey id k →
    s.run.outputs.peek? id k = (success? rows id).bind fun r => getPair? k r.outputs
  outputs : ∀ id r, success? rows id = some r → (s.run.record id).outputs = r.outputs
  staged : ∀ q, s.run.outputs.stagedOf q = []
  decision : s.decision? = release
  tag : s.tag? = (release.filter (·.decision = .release)).map fun o => .text o.tag
  written : (runScope, "release_tag") ∈ s.run.outputs.written → s.tag?.isSome = true

/-! ## The invariants of a run hold at its start -/

namespace Scheduler.Revives

theorem isSome_of_succeeded (h : Revives g rows release s) {id : String}
    (hs : s.state id = .succeeded) : ∃ r, success? rows id = some r := by
  rw [h.state] at hs
  split at hs
  · exact Option.isSome_iff_exists.1 ‹_›
  · cases hs

theorem rooted (h : Revives g rows release s) (hk : Kept g rows release) : Rooted s := by
  intro i _ hc d hd
  have hs : s.state i.id = .succeeded := by
    rcases h.toPoised.state i.id with hp | hs
    · rw [hp] at hc
      cases hc
    · exact hs
  obtain ⟨r, hr⟩ := h.isSome_of_succeeded hs
  rw [h.state, if_pos (hk.closed _ r hr d (by rwa [← h.planned]))]

theorem cleared (h : Revives g rows release s) {id : String} (hc : (s.state id).isCleared = true) :
    ∃ r, success? rows id = some r := by
  refine h.isSome_of_succeeded ?_
  rcases h.toPoised.state id with hp | hs
  · rw [hp] at hc
    cases hc
  · exact hs

/-- What is recorded of a success was reported so. -/
theorem flows_of_reports {R : String → BodyReport → Prop} (h : Revives g rows release s)
    (hk : Kept g rows release)
    (hR : ∀ i r, g.instance? i.id = some i → success? rows i.id = some r → Fits i r →
      ∃ report, R i.id report ∧ ∀ k ∈ i.template.outputs, ∃ v,
        getPair? k report.outputs = some v ∧ getPair? k r.outputs = some (.text v.shown)) :
    Flows R s where
  staged := fun _ => h.staged
  published := by
    intro _ i hi hs k hkey
    obtain ⟨r, hr⟩ := h.isSome_of_succeeded hs
    obtain ⟨j, hj, hfits⟩ := hk.known _ r hr
    rw [h.planned] at hi
    obtain rfl := Option.some.inj (hi.symm.trans hj)
    obtain ⟨report, hreport, hvalues⟩ := hR i r hi hr hfits
    obtain ⟨v, hv, hrecord⟩ := hvalues k hkey
    have hrun := (hfits.declared k hkey).1
    refine ⟨hrun, report, v, hreport, hv, ?_⟩
    rw [h.visible _ _ fun he => absurd he hrun, hr]
    exact hrecord
  tag := by
    intro _ v hv
    rw [h.tag] at hv
    obtain ⟨o, ho, rfl⟩ := Option.map_eq_some_iff.1 hv
    obtain ⟨ho, hrel⟩ := Option.filter_eq_some_iff.1 ho
    exact ⟨o, h.decision.trans ho, by simpa using hrel, rfl⟩
  released := by
    intro _ i hi hc hrelease
    obtain ⟨r, hr⟩ := h.cleared hc
    obtain ⟨o, ho, hrel⟩ := hk.release i r (by rwa [← h.planned]) hr hrelease
    rw [h.tag, ho]
    simp [hrel]
  fed := by
    intro id inputs hm
    rw [h.effects] at hm
    cases hm

theorem flows (h : Revives g rows release s) (hk : Kept g rows release) :
    Flows (fun _ _ => True) s := by
  refine h.flows_of_reports hk fun i r _ _ hfits =>
    ⟨{ status := .succeeded, outputs := r.outputs }, trivial, fun k hkey => ?_⟩
  obtain ⟨_, x, hx⟩ := hfits.declared k hkey
  exact ⟨.text x, hx, hx⟩

theorem bare (h : Revives g rows release s) (hk : Kept g rows release) : Bare s where
  hidden := by
    intro _ i hi k hkey hcase
    rw [h.visible _ _ hkey]
    rcases hr : success? rows i.id with _ | r
    · rfl
    · have hs : s.state i.id = .succeeded := by rw [h.state, hr]; rfl
      obtain ⟨j, hj, hfits⟩ := hk.known _ r hr
      rw [← h.planned, hi] at hj
      cases hj
      exact hfits.others k (hcase.resolve_left (not_not.2 hs))
  sealed := fun _ => h.written

theorem lend (h : Revives g rows release s) {table : GateTable Nat} (hk : table.Keyed)
    (now : Time) : Revives g rows release { s with gates := table, now } :=
  { h with toPoised := h.toPoised.lend hk now }

end Scheduler.Revives

/-! ## Putting back the recorded successes -/

namespace Orchestrator

/-- What a run is like in which some recorded successes were put back. -/
structure Revived (g : StageGraph) (rows : List (String × StageRecord)) (r : Run) : Prop
    extends Restored g r where
  state : ∀ id, r.state id = if (success? rows id).isSome then .succeeded else .pending
  visible : ∀ id k, r.outputs.peek? id k = (success? rows id).bind fun old => getPair? k old.outputs
  outputs : ∀ id old, success? rows id = some old → (r.record id).outputs = old.outputs
  staged : ∀ q, r.outputs.stagedOf q = []
  written : ∀ k, (runScope, k) ∉ r.outputs.written

theorem success?_concat {rows : List (String × StageRecord)} {id : String} (old : StageRecord)
    (hn : id ∉ rows.map (·.1)) (j : String) :
    success? (rows ++ [(id, old)]) j =
      if j = id then (if old.state = .succeeded then some old else none)
      else success? rows j := by
  rw [success?, success?, getPair?_append]
  by_cases hj : j = id
  · subst hj
    rw [getPair?_eq_none_iff.2 hn, if_pos rfl]
    simp [getPair?, Option.filter]
  · simp [getPair?, hj, Ne.symm hj]

/-- A stage that is called like the run has no recorded outputs. -/
theorem outputs_of_run {i : Instance} {r : StageRecord} (h : Fits i r) (hrun : i.id = runScope) :
    r.outputs = [] := by
  rcases ho : r.outputs with _ | ⟨⟨k, v⟩, rest⟩
  · rfl
  · have hsome : getPair? k r.outputs = some v := by rw [ho]; simp [getPair?]
    by_cases hk : k ∈ i.template.outputs
    · exact absurd hrun (h.declared k hk).1
    · rw [h.others k hk] at hsome
      cases hsome

theorem Revived.restoreStage {r : Run} (h : Revived g rows r) {id : String} {old : StageRecord}
    (hn : id ∉ rows.map (·.1))
    (hfits : old.state = .succeeded → ∃ i, g.instance? id = some i ∧ Fits i old)
    (hg : g.Sound) : Revived g (rows ++ [(id, old)]) (restoreStage r id old) := by
  have hbase := h.toRestored.restoreStage id old
  have hsuccess := success?_concat old hn
  have hnone : success? rows id = none := by rw [success?, getPair?_eq_none_iff.2 hn]; rfl
  by_cases hold : old.state = .succeeded
  case neg =>
    have hsame : success? (rows ++ [(id, old)]) = success? rows := by
      funext j
      rw [hsuccess, if_neg hold]
      split
      · rename_i hj
        rw [hj, hnone]
      · rfl
    have hc : ¬ ((r.graph.instance? id).isSome && decide (old.state = .succeeded)) = true := by
      simp [hold]
    rw [Orchestrator.restoreStage, if_neg hc] at hbase ⊢
    exact { hbase with
      state := by rw [hsame]; exact h.state
      visible := by rw [hsame]; exact h.visible
      outputs := by rw [hsame]; exact h.outputs
      staged := h.staged, written := h.written }
  case pos =>
    obtain ⟨i, hi, hfit⟩ := hfits hold
    have hc : ((r.graph.instance? id).isSome && decide (old.state = .succeeded)) = true := by
      simp [h.planned, hi, hold]
    have hstate := fun j => state_restoreStage hc j
    simp only [if_pos hold] at hsuccess
    rw [Orchestrator.restoreStage, if_pos hc] at hbase hstate ⊢
    refine { hbase with state := ?_, visible := ?_, outputs := ?_, staged := ?_, written := ?_ }
    · intro j
      rw [hstate, hsuccess]
      split
      · rfl
      · exact h.state j
    · intro j k
      rw [OutputStore.peek?_restore hfit.nodup, hsuccess]
      split
      · rw [h.visible, hnone]
        exact Option.or_none
      · exact h.visible j k
    · intro j old' hj
      rw [hsuccess] at hj
      simp only [Run.record, getPair?_putPair]
      split at hj
      · rename_i hid
        cases hj
        rw [if_pos hid]
        rfl
      · rename_i hid
        rw [if_neg hid]
        exact h.outputs j old' hj
    · intro q
      rw [OutputStore.stagedOf_restore]
      exact h.staged q
    · intro k hm
      rw [OutputStore.written_restore] at hm
      rcases List.mem_append.1 hm with hm | hm
      · exact h.written k hm
      · obtain ⟨p, hp, he⟩ := List.mem_map.1 hm
        have hid : id = runScope := (Prod.mk.inj he).1
        rw [outputs_of_run hfit ((hg.instance_id hi).trans hid)] at hp
        cases hp

theorem revived_new {id workflow : String} {trigger : Trigger} {now : Time} :
    Revived g [] (Run.new id trigger workflow g now) where
  toRestored := restored_new
  state := by
    intro j
    rw [Run.state, Run.record]
    rcases hr : getPair? j (Run.new id trigger workflow g now).stages with _ | r
    · rfl
    · obtain ⟨_, _, he⟩ := List.mem_map.1 (mem_of_getPair? hr)
      cases he
      rfl
  visible := fun _ _ => rfl
  outputs := by intro j old h; cases h
  staged := fun _ => rfl
  written := by intro k h; cases h

theorem Revived.restoreStages {more : List (String × StageRecord)} {r : Run}
    (h : Revived g rows r) (hg : g.Sound) (hn : ((rows ++ more).map (·.1)).Nodup)
    (hfits : ∀ id old, (id, old) ∈ more → old.state = .succeeded →
      ∃ i, g.instance? id = some i ∧ Fits i old) :
    Revived g (rows ++ more) (restoreStages r more) := by
  induction more generalizing rows r with
  | nil => rwa [List.append_nil]
  | cons p more ih =>
    obtain ⟨id, old⟩ := p
    rw [restoreStages_cons, List.append_cons]
    rw [List.append_cons] at hn
    have hfresh : id ∉ rows.map (·.1) := by
      rw [List.append_assoc, List.map_append, List.nodup_append] at hn
      exact fun hm => hn.2.2 _ hm _ (by simp) rfl
    exact ih (h.restoreStage hfresh (hfits id old List.mem_cons_self) hg) hn
      fun id old hm => hfits id old (List.mem_cons_of_mem _ hm)

theorem revived_of_kept (hk : Kept g rows release) (hg : g.Sound) {id workflow : String}
    {trigger : Trigger} {now : Time} :
    Revived g rows (Orchestrator.restoreStages (Run.new id trigger workflow g now) rows) := by
  have hnew : Revived g [] (Run.new id trigger workflow g now) := revived_new
  refine hnew.restoreStages hg hk.nodup fun id old hm hold => ?_
  exact hk.known id old (success?_eq_some.2 ⟨getPair?_of_mem hk.nodup hm, hold⟩)

theorem restoreStages_frame (stages : List (String × StageRecord)) (r : Run) :
    (Orchestrator.restoreStages r stages).id = r.id ∧
      (Orchestrator.restoreStages r stages).trigger = r.trigger := by
  induction stages generalizing r with
  | nil => exact ⟨rfl, rfl⟩
  | cons p stages ih =>
    obtain ⟨id, old⟩ := p
    have hone : (restoreStage r id old).id = r.id ∧ (restoreStage r id old).trigger = r.trigger := by
      unfold Orchestrator.restoreStage
      split <;> exact ⟨rfl, rfl⟩
    rw [restoreStages_cons]
    exact ⟨(ih _).1.trans hone.1, (ih _).2.trans hone.2⟩

/-! ## Prepared runs -/

/-- The run with the recorded release decision, if there is one. -/
def restoreDecision (r : Run) (release : Option ReleaseOutcome) : Run :=
  release.elim r (restoreRelease r)

/-- Putting back the release decision adds its tag, and changes nothing else. -/
theorem restoreDecision_spec (r : Run) (release : Option ReleaseOutcome) :
    (restoreDecision r release).id = r.id ∧
    (restoreDecision r release).trigger = r.trigger ∧
    (restoreDecision r release).stages = r.stages ∧
    (∀ q, (restoreDecision r release).outputs.stagedOf q = r.outputs.stagedOf q) ∧
    (∀ id k, OwnKey id k →
      (restoreDecision r release).outputs.peek? id k = r.outputs.peek? id k) ∧
    (r.outputs.peek? runScope "release_tag" = none →
      (restoreDecision r release).outputs.peek? runScope "release_tag" =
        (release.filter (·.decision = .release)).map fun o => .text o.tag) ∧
    ((∃ o, release = some o ∧ o.decision = .release) ∨
      (restoreDecision r release).outputs = r.outputs) := by
  rcases release with _ | o
  · exact ⟨rfl, rfl, rfl, fun _ => rfl, fun _ _ _ => rfl, fun h => h, Or.inr rfl⟩
  · simp only [restoreDecision, Option.elim_some, Orchestrator.restoreRelease]
    split
    · rename_i hrel
      have hn : (([("release_tag", Value.text o.tag)]).map (·.1)).Nodup := by simp
      refine ⟨rfl, rfl, rfl, fun q => OutputStore.stagedOf_restore, fun id k hk => ?_,
        fun hnone => ?_, Or.inl ⟨o, rfl, hrel⟩⟩
      · rw [OutputStore.peek?_restore hn]
        split
        · rename_i hid
          simp [getPair?, hid, Ne.symm (hk hid)]
        · rfl
      · rw [OutputStore.peek?_restore hn, Option.filter_some, if_pos (decide_eq_true hrel)]
        simp [getPair?]
    · rename_i hskip
      refine ⟨rfl, rfl, rfl, fun _ => rfl, fun _ _ _ => rfl, fun hnone => ?_, Or.inr rfl⟩
      rw [hnone, Option.filter_some, if_neg (by simpa using hskip)]
      rfl

/-- A scheduler that has done nothing revives what is recorded, if its run has that and its engine
knows the decision. -/
theorem Revived.revives {r : Run} (h : Revived g rows r) (hk : Kept g rows release)
    (hb : ∃ all, StageGraph.build all = .ok g) {s : Scheduler}
    (hs : s = {
      run := restoreDecision r release, now := s.now, self := s.self, maxParallel := s.maxParallel
      failFast := s.failFast, gateTimeout := s.gateTimeout, engine := s.engine })
    (hd : s.decision? = release) : Revives g rows release s := by
  obtain ⟨_, _, hstages, hstaged, hpeek, htag, hwritten⟩ := restoreDecision_spec r release
  have hrun : s.run = restoreDecision r release := by rw [hs]
  have hrestored : Restored g (restoreDecision r release) := by
    rcases release with _ | o
    · exact h.toRestored
    · exact h.toRestored.restoreRelease o
  -- what is called like the run has no outputs, so no tag is there before
  have hnone : r.outputs.peek? runScope "release_tag" = none := by
    rw [h.visible]
    rcases hr : success? rows runScope with _ | old
    · rfl
    · obtain ⟨i, hi, hfits⟩ := hk.known _ _ hr
      obtain ⟨all, hb⟩ := hb
      rw [Option.bind_some, outputs_of_run hfits ((StageGraph.build_sound hb).instance_id hi)]
      rfl
  have hshown : s.tag? = (release.filter (·.decision = .release)).map fun o => .text o.tag := by
    rw [tag?, hrun, htag hnone]
  exact { hrestored.poised hb s hs with
    planned := by rw [Scheduler.graph, hrun]; exact hrestored.planned
    state := by
      intro id
      rw [Scheduler.state, hrun, Run.state, Run.record, hstages]
      exact h.state id
    visible := by
      intro id k hkey
      rw [hrun, hpeek id k hkey, h.visible]
    outputs := by
      intro id old hid
      rw [hrun, Run.record, hstages]
      exact h.outputs id old hid
    staged := by
      intro q
      rw [hrun, hstaged, h.staged]
    decision := hd
    tag := hshown
    written := by
      intro hm
      rw [hrun] at hm
      rcases hwritten with ⟨o, rfl, hrel⟩ | hsame
      · rw [hshown]
        simp [hrel]
      · rw [hsame] at hm
        exact absurd hm (h.written _) }

variable {o o' : Orchestrator} {w : Workflow} {group runId : String} {key : Nat} {now : Time}
  {source : Option VersionSource}

/-- A run that is started revives what is recorded of it: nothing. -/
theorem revives_prepareStart {t : Trigger} (hplan : w.plan = .ok g)
    (h : o.prepareStart w t source runId key now = (o', .ready s group)) :
    Revives g [] none s := by
  obtain ⟨g', hplan', rfl, _⟩ := prepareStart_ready h
  obtain rfl := Except.ok.inj (hplan.symm.trans hplan')
  exact revived_new.revives (kept_nil g) (StageGraph.build_of_ofTemplates hplan) rfl
    (outcome_of_source source)

/-- What a run that is resumed is: the plan of the workflow with what is recorded, and marked as
running in the store. Its recorded gates stand in the gate table again. -/
theorem prepareResume_eq {st : RunStore} (found : o.store = some st)
    (h : o.prepareResume w source runId key now = (o', .ready s group)) :
    ∃ g t, w.plan = .ok g ∧ st.trigger? runId = some t ∧
      (∃ engine : Option ReleaseEngine,
        s = (o.attachPolicies w).schedulerFor w
          (restoreDecision (restoreStages (Run.new runId t w.name g now) (st.rows runId))
            (st.release? runId)) engine key now ∧
        engine.map (·.source) = source ∧ engine.bind (·.outcome) = st.release? runId) ∧
      o'.gates = restoreGates (o.attachPolicies w).gates
        ((st.gates.map (·.2)).filter (·.runId = runId)) now ∧
      o'.store = some (st.reopenRun runId now) := by
  unfold prepareResume at h
  rw [found] at h
  dsimp only at h
  split at h
  · cases h
  · rename_i old hload
    obtain ⟨hstages, hrelease, hgates, htrigger⟩ := RunStore.load_spec hload
    rw [hstages, hrelease, hgates] at h
    split at h
    · cases h
    · rename_i g hplan
      refine ⟨g, old.row.trigger, hplan, htrigger, ?_⟩
      split at h
      · rename_i hnone
        cases h
        rw [hnone]
        exact ⟨⟨_, rfl, by simp [Function.comp_def], outcome_of_source _⟩, rfl, rfl⟩
      · cases h
      · rename_i outcome source hsome
        cases h
        rw [hsome]
        exact ⟨⟨_, rfl, rfl, rfl⟩, rfl, rfl⟩

/-- A run that is resumed is the recorded one, and the store has it as running. -/
theorem prepareResume_frame {st : RunStore} (found : o.store = some st)
    (h : o.prepareResume w source runId key now = (o', .ready s group)) :
    s.run.id = runId ∧ st.trigger? runId = some s.run.trigger ∧
      o'.store = some (st.reopenRun runId now) := by
  obtain ⟨g, t, _, htrigger, ⟨engine, rfl, _, _⟩, _, hstore⟩ := prepareResume_eq found h
  have hstages := restoreStages_frame (st.rows runId) (Run.new runId t w.name g now)
  have hdecision := restoreDecision_spec
    (Orchestrator.restoreStages (Run.new runId t w.name g now) (st.rows runId)) (st.release? runId)
  refine ⟨hdecision.1.trans hstages.1, htrigger.trans (congrArg some ?_), hstore⟩
  exact (hdecision.2.1.trans hstages.2).symm

/-- With a version source a recorded run can be resumed. -/
theorem exists_prepareResume {st : RunStore} {t : Trigger} (found : o.store = some st)
    (hplan : w.plan = .ok g) (ht : st.trigger? runId = some t) (source : VersionSource) (key : Nat)
    (now : Time) :
    ∃ o' s group, o.prepareResume w (some source) runId key now = (o', .ready s group) := by
  obtain ⟨old, hold⟩ := RunStore.load_of_trigger ht
  unfold prepareResume
  rw [found]
  dsimp only
  rw [hold]
  dsimp only
  rw [hplan]
  dsimp only
  split
  · exact ⟨_, _, _, rfl⟩
  · contradiction
  · exact ⟨_, _, _, rfl⟩

/-- A run that is resumed revives what is recorded of it. -/
theorem revives_prepareResume {st : RunStore} (found : o.store = some st) (hplan : w.plan = .ok g)
    (hk : Kept g (st.rows runId) (st.release? runId))
    (h : o.prepareResume w source runId key now = (o', .ready s group)) :
    Revives g (st.rows runId) (st.release? runId) s := by
  obtain ⟨g', t, hplan', _, ⟨engine, rfl, _, hengine⟩, _⟩ := prepareResume_eq found h
  obtain rfl := Except.ok.inj (hplan.symm.trans hplan')
  have hb := StageGraph.build_of_ofTemplates hplan
  obtain ⟨all, hbuilt⟩ := hb
  exact (revived_of_kept hk (StageGraph.build_sound hbuilt)).revives hk ⟨all, hbuilt⟩ rfl hengine

end Orchestrator

end GatedPipeline
