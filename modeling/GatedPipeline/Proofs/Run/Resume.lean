-- Taking up a run where it stopped. The process may stop after any part of the
-- journal, and the run may be taken up any number of times: what has succeeded
-- stays so, and the release decision stays what it was.
import GatedPipeline.Proofs.Run.Mirror
namespace GatedPipeline

open Orchestrator (namedTrigger)
open Scheduler (Leads OwnKey Revives)

/-! ## Executions that stop -/

/-- What is recorded of a prepared run when its process stops: it worked for a while with the gate
table and the clock that the host lent, and a part of its journal was carried out. -/
def Cut (Runs : Scheduler → Scheduler → Prop) (runId : String) (s : Scheduler)
    (base st : RunStore) : Prop :=
  ∃ table clock s' ws, table.Keyed ∧ Runs { s with gates := table, now := clock } s' ∧
    ws <+: s'.writes ∧ RunStore.Recorded runId base ws st

/-- A recorded run is taken up, and its process stops again. -/
inductive Execution (Runs : Scheduler → Scheduler → Prop) (w : Workflow) (runId : String)
    (st st' : RunStore) : Prop
  | intro {o o' : Orchestrator} {source : Option VersionSource} {key : Nat} {now : Time}
      {s : Scheduler} {group : String} {base : RunStore} (found : o.store = some st)
      (ready : o.prepareResume w source runId key now = (o', .ready s group))
      (after : o'.store = some base) (cut : Cut Runs runId s base st')

/-- What may be recorded of a run of the workflow: it was started, its process stopped, and it was
taken up any number of times. -/
inductive History (Runs : Scheduler → Scheduler → Prop) (w : Workflow) (t : Trigger)
    (runId : String) : RunStore → Prop
  | start {o o' : Orchestrator} {source : Option VersionSource} {key : Nat} {now : Time}
      {s : Scheduler} {group : String} {st base st' : RunStore} (found : o.store = some st)
      (unknown : st.rows runId = [] ∧ st.release? runId = none)
      (ready : o.prepareStart w t source runId key now = (o', .ready s group))
      (after : o'.store = some base) (cut : Cut Runs runId s base st') : History Runs w t runId st'
  | resume {st st' : RunStore} (before : History Runs w t runId st)
      (next : Execution Runs w runId st st') : History Runs w t runId st'

variable {Runs : Scheduler → Scheduler → Prop} {w : Workflow} {t : Trigger} {runId : String}
  {g : StageGraph} {rows : List (String × StageRecord)} {release : Option ReleaseOutcome}
  {s₀ s : Scheduler} {base st st' : RunStore} {id : String}

theorem Cut.mono {Runs' : Scheduler → Scheduler → Prop} (h : Cut Runs runId s base st)
    (hR : ∀ s s', Runs s s' → Runs' s s') : Cut Runs' runId s base st := by
  obtain ⟨table, clock, s', ws, hkeyed, hruns, hrest⟩ := h
  exact ⟨table, clock, s', ws, hkeyed, hR _ _ hruns, hrest⟩

theorem Execution.mono {Runs' : Scheduler → Scheduler → Prop} (h : Execution Runs w runId st st')
    (hR : ∀ s s', Runs s s' → Runs' s s') : Execution Runs' w runId st st' := by
  obtain ⟨found, ready, after, cut⟩ := h
  exact ⟨found, ready, after, cut.mono hR⟩

theorem History.mono {Runs' : Scheduler → Scheduler → Prop} (h : History Runs w t runId st)
    (hR : ∀ s s', Runs s s' → Runs' s s') : History Runs' w t runId st := by
  induction h with
  | start found unknown ready after cut =>
    exact .start found unknown ready after (cut.mono hR)
  | resume _ next ih => exact .resume ih (next.mono hR)

/-! ## What stays as it is -/

theorem State.rank_le (st : State) : st.rank ≤ 4 := by cases st <;> decide

/-- Nothing is reported of an instance that had succeeded before the run began. -/
theorem Scheduler.Told.reports_of_succeeded (h : Scheduler.Told s₀ s)
    (hs : s₀.state id = .succeeded) : s.reports id = [] := by
  rcases hr : s.reports id with _ | ⟨r, rest⟩
  · rfl
  · have hrising := h.rising id
    rw [Scheduler.trail, hr, hs, List.map_cons, List.pairwise_cons] at hrising
    have hlt := hrising.1 r.state List.mem_cons_self
    exact absurd (State.rank_le r.state) (Nat.not_le.2 hlt)

/-- A restored instance is never started, and nothing is written about it. -/
theorem Scheduler.Leads.untouched (h₀ : s₀.Poised) (h : Leads s₀ s)
    (hs : s₀.state id = .succeeded) :
    id ∉ s.started ∧ ∀ owner r, .state owner id r ∉ s.writes := by
  have htold := h.told h₀
  have hnone := htold.reports_of_succeeded hs
  refine ⟨fun hm => ?_, fun owner r hm => ?_⟩
  · obtain ⟨r, hr, _⟩ := (htold.ran id).1 hm
    rw [hnone] at hr
    cases hr
  · have hjournal := htold.journal id
    rw [hnone] at hjournal
    refine List.filterMap_eq_nil_iff.1 hjournal _ (Scheduler.mem_writes.1 hm) |> fun h => ?_
    simp [Scheduler.writeOf] at h

/-! ## What is recorded -/

/-- What is recorded of a run that is taken up hangs together when its process stops, and what was
recorded before still is. -/
theorem Cut.spec (h : Cut Leads runId s base st) (hs : Revives g rows release s)
    (hk : Kept g rows release) (hid : s.run.id = runId) (hrows : base.rows runId = rows)
    (hrelease : base.release? runId = release) :
    Kept g (st.rows runId) (st.release? runId) ∧ st.trigger? runId = base.trigger? runId ∧
      (∀ id r, success? rows id = some r → getPair? id (st.rows runId) = some r) ∧
      ∀ o, release = some o → st.release? runId = some o := by
  obtain ⟨table, clock, s', ws, hkeyed, hruns, hws, hrecorded⟩ := h
  obtain ⟨hst, hstRelease, htrigger⟩ := hrecorded.spec
  rw [hrows] at hst
  rw [hrelease] at hstRelease
  have hlent := hs.lend hkeyed clock
  have hsteady := hruns.steady hlent.framed hlent.keyed
  have hrun : s'.run.id = runId := hsteady.runId.trans hid
  have hmirror := hruns.mirrors hlent hk
  refine ⟨?_, htrigger, fun id r hr => ?_, fun o ho => ?_⟩
  · have hkept := hmirror.kept ws hws
    rw [show s'.graph = g from hsteady.graph.trans hs.planned, Scheduler.recorded, hrun] at hkept
    rwa [hst, hstRelease]
  · have hsucceeded := (hlent.state id).trans (if_pos (by rw [hr]; rfl))
    rw [hst, RunStore.row_of_unwritten fun r' hm =>
      (hruns.untouched hlent.toPoised hsucceeded).2 runId r' (hws.subset hm)]
    exact (success?_eq_some.1 hr).1
  · rw [hstRelease, ← hrun]
    exact Scheduler.recorded_of_longer hlent.effects hlent.decision hsteady
      (List.nil_prefix (l := ws)) hws ho

/-- Taking up a run again keeps what is recorded. -/
theorem Execution.spec (h : Execution Leads w runId st st') (hplan : w.plan = .ok g)
    (hk : Kept g (st.rows runId) (st.release? runId)) :
    Kept g (st'.rows runId) (st'.release? runId) ∧ st'.trigger? runId = st.trigger? runId ∧
      (∀ id r, success? (st.rows runId) id = some r → getPair? id (st'.rows runId) = some r) ∧
      ∀ o, st.release? runId = some o → st'.release? runId = some o := by
  cases h with
  | @intro _ _ _ _ now _ _ _ found ready after cut =>
    obtain ⟨hid, _, hstore⟩ := Orchestrator.prepareResume_frame found ready
    rw [hstore] at after
    cases after
    have hsame := RunStore.sameRun_reopenRun runId st runId now
    have hcut := cut.spec (Orchestrator.revives_prepareResume found hplan hk ready) hk hid
      hsame.rows hsame.release
    rwa [hsame.trigger] at hcut

/-- A run that was started has in the store what it is about, and nothing else. -/
theorem RunStore.sameRun_createRun {trigger : Trigger} {workflow group : String} {now : Time}
    (h : st.createRun runId trigger workflow group now = .ok st') :
    st'.rows runId = st.rows runId ∧ st'.release? runId = st.release? runId ∧
      st'.about? runId = some (workflow, group, trigger) := by
  unfold createRun at h
  split at h
  · cases h
  · rename_i hnew
    cases h
    refine ⟨rfl, rfl, ?_⟩
    rw [about?, getPair?_append, Option.not_isSome_iff_eq_none.1 hnew]
    simp [getPair?]

/-- Whatever happened to a run, what is recorded of it hangs together. -/
theorem History.kept (h : History Leads w t runId st) :
    ∃ g, w.plan = .ok g ∧ Kept g (st.rows runId) (st.release? runId) ∧
      st.trigger? runId = some (namedTrigger w t) := by
  induction h with
  | start found unknown ready after cut =>
    obtain ⟨g, hplan, hs, _, hstore⟩ := Orchestrator.prepareStart_ready ready
    obtain ⟨base, hcreate, hbase⟩ := hstore _ found
    have htrigger := RunStore.trigger?_eq base runId
    rw [hbase] at after
    cases after
    obtain ⟨hrows, hrelease, habout⟩ := RunStore.sameRun_createRun hcreate
    rw [habout] at htrigger
    obtain ⟨hk, ht, _, _⟩ := cut.spec (Orchestrator.revives_prepareStart hplan ready) (kept_nil g)
      (by rw [hs]; rfl) (hrows.trans unknown.1) (hrelease.trans unknown.2)
    exact ⟨g, hplan, hk, ht.trans htrigger⟩
  | resume _ next ih =>
    obtain ⟨g, hplan, hk, htrigger⟩ := ih
    obtain ⟨hk', ht, _, _⟩ := next.spec hplan hk
    exact ⟨g, hplan, hk', ht.trans htrigger⟩

/-! ## How an execution begins -/

/-- The work on a run begins, of which these instances and this release decision are recorded: a new
run of an accepted graph, of which nothing is, or a run that is taken up. The host lends the gate
table and the clock. -/
inductive Scheduler.Begun (g : StageGraph) :
    List (String × StageRecord) → Option ReleaseOutcome → Scheduler → Prop
  | new {all : List Instance} {engine : Option ReleaseEngine} {table : GateTable Nat}
      (built : StageGraph.build all = .ok g) (undecided : engine.bind (·.outcome) = none)
      (keyed : table.Keyed) (id workflow : String) (trigger : Trigger) (now clock : Time)
      (key : Nat) (maxParallel : Int) (failFast : Bool) (gateTimeout : Option Time) :
      Begun g [] none {
        run := Run.new id trigger workflow g now, gates := table, now := clock, self := key
        maxParallel, failFast, gateTimeout, engine }
  | resumed {w : Workflow} {t : Trigger} {runId group : String} {st : RunStore}
      {o o' : Orchestrator} {source : Option VersionSource} {key : Nat} {now : Time}
      {s : Scheduler} {table : GateTable Nat} (plan : w.plan = .ok g)
      (before : History Leads w t runId st) (found : o.store = some st)
      (ready : o.prepareResume w source runId key now = (o', .ready s group))
      (keyed : table.Keyed) (clock : Time) :
      Begun g (st.rows runId) (st.release? runId) { s with gates := table, now := clock }

/-- When the work on a run begins, just what is recorded has been put back. -/
theorem Scheduler.Begun.revives (h : Scheduler.Begun g rows release s) :
    Revives g rows release s ∧ Kept g rows release := by
  cases h with
  | @new all engine table built undecided keyed id workflow trigger now clock key limit strict
      span =>
    refine ⟨?_, kept_nil g⟩
    have hrevives : Revives g [] none {
        run := Run.new id trigger workflow g now, now := clock, self := key, maxParallel := limit
        failFast := strict, gateTimeout := span, engine } :=
      Orchestrator.revived_new.revives (kept_nil g) ⟨all, built⟩ rfl undecided
    exact hrevives.lend keyed clock
  | resumed plan before found ready keyed clock =>
    obtain ⟨g', plan', hk, _⟩ := before.kept
    cases plan.symm.trans plan'
    exact ⟨(Orchestrator.revives_prepareResume found plan hk ready).lend keyed clock, hk⟩

/-- A run that is started begins with nothing. -/
theorem Scheduler.begun_prepareStart {o o' : Orchestrator} {source : Option VersionSource}
    {key : Nat} {now : Time} {group : String} {table : GateTable Nat} (hplan : w.plan = .ok g)
    (ready : o.prepareStart w t source runId key now = (o', .ready s group))
    (keyed : table.Keyed) (clock : Time) :
    Scheduler.Begun g [] none { s with gates := table, now := clock } := by
  obtain ⟨g', hplan', rfl, _⟩ := Orchestrator.prepareStart_ready ready
  cases hplan.symm.trans hplan'
  obtain ⟨all, hb⟩ := StageGraph.build_of_ofTemplates hplan
  exact .new hb (Orchestrator.outcome_of_source source) keyed _ _ _ _ _ _ _ _ _

/-- So it does with the gate table and the clock that it was prepared with. -/
theorem Scheduler.begun_of_prepareStart {o o' : Orchestrator} {source : Option VersionSource}
    {key : Nat} {now : Time} {group : String}
    (ready : o.prepareStart w t source runId key now = (o', .ready s group)) :
    Scheduler.Begun s.graph [] none s := by
  obtain ⟨g, hplan, hs, _⟩ := Orchestrator.prepareStart_ready ready
  have hkeyed := (Orchestrator.revives_prepareStart hplan ready).keyed
  have hbegun := Scheduler.begun_prepareStart hplan ready hkeyed s.now
  rwa [show g = s.graph by rw [hs]; rfl] at hbegun

/-- What is recorded of a run stays recorded, however often the run is taken up. -/
theorem Execution.kept (hplan : w.plan = .ok g) (hk : Kept g (st.rows runId) (st.release? runId))
    (h : Relation.ReflTransGen (Execution Leads w runId) st st') :
    Kept g (st'.rows runId) (st'.release? runId) ∧
      (∀ id r, success? (st.rows runId) id = some r → success? (st'.rows runId) id = some r) ∧
      ∀ o, st.release? runId = some o → st'.release? runId = some o := by
  induction h with
  | refl => exact ⟨hk, fun _ _ hr => hr, fun _ ho => ho⟩
  | tail _ next ih =>
    obtain ⟨hkept, hrows, hrelease⟩ := ih
    obtain ⟨hkept', _, hrows', hrelease'⟩ := next.spec hplan hkept
    refine ⟨hkept', fun id r hr => ?_, fun o ho => hrelease' o (hrelease o ho)⟩
    exact success?_eq_some.2 ⟨hrows' id r (hrows id r hr), (success?_eq_some.1 hr).2⟩

/-! ## The law -/

/-- However a run came to stop, it can be taken up with a version source. Then just the recorded
successes have succeeded, with all that they depend on, and just their recorded outputs are visible,
beside the tag of the run, which is there just if the recorded decision is to release. None of them
is started again, the inputs of the others can be gathered, and the recorded release decision is the
answer whatever the source says. None of this is recorded otherwise ever after. -/
theorem a_resumed_run_keeps_what_was_recorded (h : History Leads w t runId st) {o : Orchestrator}
    (found : o.store = some st) (source : VersionSource) (key : Nat) (now : Time) :
    (∃ o' s group, o.prepareResume w (some source) runId key now = (o', .ready s group) ∧
      (∀ id, s.state id = if (success? (st.rows runId) id).isSome then .succeeded else .pending) ∧
      (∀ id r, success? (st.rows runId) id = some r → (s.run.record id).outputs = r.outputs) ∧
      (∀ id k, OwnKey id k → s.run.outputs.peek? id k =
        (success? (st.rows runId) id).bind fun r => getPair? k r.outputs) ∧
      s.tag? = ((st.release? runId).filter (·.decision = .release)).map (fun o => .text o.tag) ∧
      (∀ id a, s.state id = .succeeded → s.graph.DependsOn id a → s.state a = .succeeded) ∧
      ∀ table clock s', table.Keyed → Leads { s with gates := table, now := clock } s' →
        (∀ id, s.state id = .succeeded → id ∉ s'.started) ∧
        (∀ outcome, st.release? runId = some outcome → s'.decision? = some outcome ∧
          (s'.fatal = false → s'.decideRelease.1 = .ok outcome)) ∧
        (s'.halted = false → ∀ id, s'.startable id = true →
          ∃ inputs, s'.gatherInputs id = .ok inputs)) ∧
    ∀ st', Relation.ReflTransGen (Execution Leads w runId) st st' →
      (∀ id r, success? (st.rows runId) id = some r → getPair? id (st'.rows runId) = some r) ∧
      ∀ outcome, st.release? runId = some outcome → st'.release? runId = some outcome := by
  obtain ⟨g, hplan, hk, htrigger⟩ := h.kept
  refine ⟨?_, fun st' hlater => ?_⟩
  · obtain ⟨o', s, group, ready⟩ :=
      Orchestrator.exists_prepareResume found hplan htrigger source key now
    have hs := Orchestrator.revives_prepareResume found hplan hk ready
    have hrooted := hs.rooted hk
    refine ⟨o', s, group, ready, hs.state, hs.outputs, hs.visible, hs.tag, fun id a hid ha => ?_,
      fun table clock s' hkeyed hruns => ?_⟩
    · obtain ⟨i, rfl, hi⟩ := hs.framed.instance_of_unpending (by rw [hid]; simp)
      exact hrooted.ancestors hs.framed (hrooted i hi (by rw [hid]; rfl)) a ha
    · have hlent := hs.lend hkeyed clock
      have hrootedLent := hlent.rooted hk
      have hsteady := hruns.steady hlent.framed hlent.keyed
      refine ⟨fun id hid => (hruns.untouched hlent.toPoised hid).1, fun outcome ho => ?_,
        fun going id able => ?_⟩
      · have hdecided := hsteady.decision (hlent.decision.trans ho)
        exact ⟨hdecided, fun ht => (hruns.bare_of_rooted hlent.toPoised hrootedLent
          (hlent.flows hk) (hlent.bare hk)).decideRelease_of_decided ht hdecided⟩
      · obtain ⟨hf, _⟩ := hruns.framed hlent.framed hlent.keyed
        have was := (Scheduler.ready_of_startable able).1
        obtain ⟨i, rfl, hi⟩ := hf.instance_of_unpending (by rw [was]; simp)
        obtain ⟨inputs, hinputs, _⟩ :=
          (hruns.flows_of_rooted hlent.toPoised hrootedLent (hlent.flows hk)).gathered_of_rooted hf
            (hruns.rooted hlent.toPoised hrootedLent) (Scheduler.unaborted_of_going going) hi
            (by rw [was]; rfl)
        exact ⟨inputs, hinputs⟩
  · obtain ⟨_, hrows, hrelease⟩ := Execution.kept hplan hk hlater
    exact ⟨fun id r hr => (success?_eq_some.1 (hrows id r hr)).1, hrelease⟩

/-! ## A release that is taken up again -/

/-- A host whose store is empty. -/
def shipHost : Orchestrator := { store := some {} }

/-- What the store has when the process stops while the release waits for its gate: all but the last
write of the journal. -/
def shipStored : RunStore :=
  match shipHost.prepareStart Scheduler.shipWorkflow {} (some (.fixed "1.2.0" none)) "r1" 0 0 with
  | (o, .ready s _) => ((s.begin.endBody "build" .default).2.turn.writes.dropLast).foldl
      (fun st w => st.apply 0 w) (o.store.getD {})
  | _ => {}

theorem prepareStart_shipHost : ∃ o s group base,
    shipHost.prepareStart Scheduler.shipWorkflow {} (some (.fixed "1.2.0" none)) "r1" 0 0 =
      (o, .ready s group) ∧ o.store = some base := by
  have hready : (match shipHost.prepareStart Scheduler.shipWorkflow {}
      (some (.fixed "1.2.0" none)) "r1" 0 0 with
    | (o, .ready _ _) => o.store.isSome
    | _ => false) = true := by decide +kernel
  split at hready
  · rename_i o s group h
    obtain ⟨base, hbase⟩ := Option.isSome_iff_exists.1 hready
    exact ⟨o, s, group, base, h, hbase⟩
  · cases hready

theorem history_shipStored : History Leads Scheduler.shipWorkflow {} "r1" shipStored := by
  obtain ⟨o, s, group, base, ready, hbase⟩ := prepareStart_shipHost
  obtain ⟨g, hplan, _⟩ := Orchestrator.prepareStart_ready ready
  unfold shipStored
  rw [ready]
  dsimp only
  rw [hbase]
  refine .start rfl ⟨rfl, rfl⟩ ready hbase ⟨s.gates, s.now,
    (s.begin.endBody "build" .default).2.turn, _,
    (Orchestrator.revives_prepareStart hplan ready).keyed, ?_, List.dropLast_prefix _, ?_⟩
  · exact ((Scheduler.leads_begin s).trans (Scheduler.leads_endBody _ "build" .default)).trans
      (Scheduler.leads_turn _)
  · exact RunStore.recorded_foldl "r1" base 0 _

/-- The image is not built again, and version 1.2.0 is released although the source has another one
now. -/
theorem the_image_is_not_built_again :
    History Leads Scheduler.shipWorkflow {} "r1" shipStored ∧
      ∃ o' s group, Orchestrator.prepareResume { store := some shipStored } Scheduler.shipWorkflow
          (some (.fixed "1.3.0" none)) "r1" 0 5 = (o', .ready s group) ∧
        s.state "build" = .succeeded ∧ s.state "deploy" = .pending ∧
        (s.run.outputs.peek? "build" "image").isSome = true ∧
        ∀ table clock s', table.Keyed → Leads { s with gates := table, now := clock } s' →
          "build" ∉ s'.started ∧ s'.decision? =
            some { decision := .release, candidate := "1.2.0", latest := none } := by
  obtain ⟨⟨o', s, group, ready, hstate, _, hvisible, _, _, hruns⟩, _⟩ :=
    a_resumed_run_keeps_what_was_recorded history_shipStored
      (o := { store := some shipStored }) rfl (.fixed "1.3.0" none) 0 5
  have hbuild : s.state "build" = .succeeded := (hstate "build").trans (by decide +kernel)
  refine ⟨history_shipStored, o', s, group, ready, hbuild, (hstate "deploy").trans (by decide +kernel),
    ?_, fun table clock s' hkeyed hleads => ?_⟩
  · rw [hvisible "build" "image" fun he => absurd he (by decide)]
    decide +kernel
  · obtain ⟨hstarted, hdecided, _⟩ := hruns table clock s' hkeyed hleads
    exact ⟨hstarted "build" hbuild, (hdecided _ (by decide +kernel)).1⟩

end GatedPipeline
