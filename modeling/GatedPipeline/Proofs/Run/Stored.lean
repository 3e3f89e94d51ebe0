-- What the store has of a run mirrors it: once an instance has moved, its row
-- is its record, and when the run is over, what is read back of it is the run.
import GatedPipeline.Description.Trigger
import GatedPipeline.Proofs.Run.Resume
namespace GatedPipeline

open RunStore (releaseAfter Recorded)
open Scheduler (Leads Poised)

variable {w : Workflow} {trigger : Trigger} {runId name group lane : String} {o o' : Orchestrator}
  {source : Option VersionSource} {key : Nat} {now : Time} {st base : RunStore}
  {rows : List (String × StageRecord)} {release : Option ReleaseOutcome} {entry : RunRow}
  {s₀ s t : Scheduler} {id : String}

/-! ## A trigger is read back as it was recorded -/

/-- What the record of a trigger has. -/
def Trigger.recorded (t : Trigger) : TriggerRecord where
  event := t.event
  ref := .text t.ref
  fork := t.fork
  actor := .text t.actor
  values := t.values.map fun (k, v) => (k, .text v)
  changedFiles := t.changedFiles.map .text
  workflow := .text t.workflow

theorem TriggerRecord.eventOf_name (e : EventKind) : eventOf (.text e.name) = .ok e := by
  cases e <;> rfl

theorem Json.toValues_texts (texts : List String) :
    toValues (texts.map .text) = texts.map Value.text := by
  induction texts with
  | nil => rfl
  | cons text texts ih => simp [toValues, toValue, ih]

theorem Json.toMembers_texts (ps : List (String × String)) :
    toMembers (ps.map fun (k, v) => (k, .text v)) = ps.map fun (k, v) => (k, Value.text v) := by
  induction ps with
  | nil => rfl
  | cons p ps ih => simp [toMembers, toValue, ih]

theorem Json.getPair?_toMembers (k : String) (ms : List (String × Json)) :
    getPair? k (toMembers ms) = (getPair? k ms).map toValue := by
  induction ms with
  | nil => rfl
  | cons m ms ih =>
    obtain ⟨k', j⟩ := m
    rw [toMembers, getPair?, getPair?, ih]
    split <;> rfl

/-- A trigger that was recorded is read back with all that it has. -/
theorem TriggerRecord.ofJson_toJson (t : Trigger) : ofJson t.toJson = .ok t.recorded := by
  have hfields : (fun field => (t.toJson.member? field).map Json.toValue) = fun field =>
      getPair? field [("event", Value.text t.event.name), ("ref", .text t.ref),
        ("fork", .bool t.fork), ("actor", .text t.actor),
        ("values", .mapping t.recorded.values), ("changed_files", .list t.recorded.changedFiles),
        ("workflow", .text t.workflow)] := by
    funext field
    rw [Trigger.toJson, Json.member?, ← Json.getPair?_toMembers]
    simp only [Json.toMembers, Json.toValue, Json.map, Json.texts, Json.toValues_texts,
      Json.toMembers_texts, Trigger.recorded]
  have hevent : ∀ ps, getPair? "event" (("event", Value.text t.event.name) :: ps) =
      some (.text t.event.name) := fun _ => rfl
  rw [ofJson, hfields, ofFields]
  simp only [hevent, eventOf_name]
  rfl

/-! ## Putting recorded instances back -/

namespace Orchestrator

theorem workflow_restoreStages (stages : List (String × StageRecord)) (r : Run) :
    (restoreStages r stages).workflow = r.workflow := by
  induction stages generalizing r with
  | nil => rfl
  | cons p stages ih =>
    obtain ⟨id, old⟩ := p
    rw [restoreStages_cons, ih]
    unfold restoreStage
    split <;> rfl

theorem workflow_restoreDecision (r : Run) (release : Option ReleaseOutcome) :
    (restoreDecision r release).workflow = r.workflow := by
  rcases release with _ | o
  · rfl
  · simp only [restoreDecision, Option.elim_some, restoreRelease]
    split <;> rfl

/-- An instance has the record that it had, or it is put back with recorded outputs. -/
theorem record_restoreStages (stages : List (String × StageRecord)) (r : Run) (id : String) :
    (restoreStages r stages).record id = r.record id ∨
      ∃ old, (id, old) ∈ stages ∧ old.state = .succeeded ∧
        ((restoreStages r stages).record id).outputs = old.outputs := by
  induction stages generalizing r with
  | nil => exact Or.inl rfl
  | cons p stages ih =>
    obtain ⟨j, old⟩ := p
    rw [restoreStages_cons]
    rcases ih (restoreStage r j old) with hsame | ⟨old', hm, hold⟩
    · rw [hsame]
      unfold restoreStage
      split
      · rename_i hc
        by_cases hid : id = j
        · refine Or.inr ⟨old, ?_, ?_, ?_⟩
          · rw [hid]
            exact List.mem_cons_self
          · simpa using (Bool.and_eq_true_iff.1 hc).2
          · simp [Run.record, hid]
        · refine Or.inl ?_
          simp [Run.record, getPair?_putPair, hid]
      · exact Or.inl rfl
    · exact Or.inr ⟨old', List.mem_cons_of_mem _ hm, hold⟩

/-- A run that is taken up stays in the group that is recorded. Only for one without a group that of
the workflow counts. -/
theorem group_of_prepareResume (found : o.store = some st)
    (recorded : getPair? runId st.runs = some entry)
    (ready : o.prepareResume w source runId key now = (o', .ready s lane)) :
    lane = if entry.group = "" then w.concurrencyGroup entry.trigger else entry.group := by
  unfold prepareResume at ready
  rw [found] at ready
  dsimp only at ready
  rw [RunStore.load, recorded] at ready
  dsimp only at ready
  split at ready
  · cases ready
  · split at ready
    · cases ready
      rfl
    · cases ready
    · cases ready
      rfl

end Orchestrator

/-! ## How a run with a store begins -/

/-- The work on a run of the workflow begins, with this store and in this lane: a new run, or one that
is taken up, be it under another name or with other stages than before. The run was started under
this name and in this group. In the store a release decision is that of a recorded run, and an
instance has one row. The host lends the gate table and the clock. -/
inductive Opened (w : Workflow) (runId : String) :
    RunStore → String → String → String → Scheduler → Prop
  | start {t : Trigger} {o o' : Orchestrator} {source : Option VersionSource} {key : Nat}
      {now : Time} {s : Scheduler} {group : String} {st base : RunStore} {table : GateTable Nat}
      (found : o.store = some st)
      (linked : ∀ id, (st.release? id).isSome = true → (getPair? id st.runs).isSome = true)
      (ready : o.prepareStart w t source runId key now = (o', .ready s group))
      (after : o'.store = some base) (keyed : table.Keyed) (clock : Time) :
      Opened w runId base w.name group group { s with gates := table, now := clock }
  | resume {o o' : Orchestrator} {source : Option VersionSource} {key : Nat} {now : Time}
      {s : Scheduler} {lane : String} {st base : RunStore} {row : RunRow} {table : GateTable Nat}
      (found : o.store = some st) (recorded : getPair? runId st.runs = some row)
      (distinct : ((st.rows runId).map (·.1)).Nodup)
      (ready : o.prepareResume w source runId key now = (o', .ready s lane))
      (after : o'.store = some base) (keyed : table.Keyed) (clock : Time) :
      Opened w runId base row.workflow row.group lane { s with gates := table, now := clock }

theorem Opened.lane_eq (h : Opened w runId base name group lane s) (hgroup : group ≠ "") :
    lane = group := by
  cases h with
  | start => rfl
  | resume found recorded _ ready =>
    rw [Orchestrator.group_of_prepareResume found recorded ready, if_neg hgroup]

/-- The store has the run that is about to begin: what it is about, its release decision, and the
outputs of those that have succeeded. -/
structure Scheduler.Backed (w : Workflow) (runId : String) (base : RunStore) (name group : String)
    (s : Scheduler) : Prop extends Poised s where
  named : s.run.id = runId
  workflow : s.run.workflow = w.name
  about : base.about? runId = some (name, group, s.run.trigger)
  decided : s.decision? = base.release? runId
  restored : ∀ id, s.state id = .succeeded → ∃ r, getPair? id (base.rows runId) = some r ∧
    r.state = .succeeded ∧ r.outputs = (s.run.record id).outputs

theorem Scheduler.Backed.lend (h : Scheduler.Backed w runId base name group s)
    {table : GateTable Nat} (hk : table.Keyed) (clock : Time) :
    Scheduler.Backed w runId base name group { s with gates := table, now := clock } :=
  { h with toPoised := h.toPoised.lend hk clock }

theorem Orchestrator.backed_prepareStart (found : o.store = some st)
    (linked : ∀ id, (st.release? id).isSome = true → (getPair? id st.runs).isSome = true)
    (ready : o.prepareStart w trigger source runId key now = (o', .ready s group))
    (after : o'.store = some base) : Scheduler.Backed w runId base w.name group s := by
  have hfresh := fresh_prepareStart ready
  obtain ⟨g, _, hs, _, hstore⟩ := prepareStart_ready ready
  obtain ⟨created, hcreate, hbase⟩ := hstore _ found
  rw [hbase] at after
  cases after
  obtain ⟨_, hrelease, habout⟩ := RunStore.sameRun_createRun hcreate
  refine { hfresh.toPoised with
    named := by rw [hs]; rfl, workflow := by rw [hs]; rfl, about := by rw [habout, hs]; rfl
    decided := ?_, restored := ?_ }
  · have hundecided : st.release? runId = none := by
      refine Option.not_isSome_iff_eq_none.1 fun hdecided => ?_
      rw [RunStore.createRun, if_pos (linked runId hdecided)] at hcreate
      cases hcreate
    rw [hrelease, hundecided, hs]
    exact outcome_of_source source
  · intro id hid
    rw [hfresh.state] at hid
    cases hid

theorem Orchestrator.backed_prepareResume (found : o.store = some st)
    (recorded : getPair? runId st.runs = some entry) (distinct : ((st.rows runId).map (·.1)).Nodup)
    (ready : o.prepareResume w source runId key now = (o', .ready s group))
    (after : o'.store = some base) :
    Scheduler.Backed w runId base entry.workflow entry.group s := by
  have hpoised := poised_prepareResume ready
  obtain ⟨hid, htrigger, hstore⟩ := prepareResume_frame found ready
  obtain ⟨g, t, _, _, ⟨engine, hs, _, hengine⟩, _⟩ := prepareResume_eq found ready
  rw [hstore] at after
  cases after
  have hsame := RunStore.sameRun_reopenRun runId st runId now
  have hrecord : ∀ id, s.run.record id =
      (Orchestrator.restoreStages (Run.new runId t w.name g now) (st.rows runId)).record id := by
    intro id
    rw [hs]
    exact congrArg (fun stages => (getPair? id stages).getD {})
      (restoreDecision_spec _ (st.release? runId)).2.2.1
  refine { hpoised with
    named := hid, workflow := ?_, about := ?_, decided := ?_, restored := ?_ }
  · rw [hs]
    exact (workflow_restoreDecision _ _).trans (workflow_restoreStages _ _)
  · rw [RunStore.trigger?, recorded] at htrigger
    rw [hsame.about, RunStore.about?, recorded, ← Option.some.inj htrigger]
    rfl
  · rw [hsame.release, hs]
    exact hengine
  · intro id hsucceeded
    rw [hsame.rows, hrecord]
    rcases record_restoreStages (st.rows runId) (Run.new runId t w.name g now) id with
      hnew | ⟨old, hm, hold, houtputs⟩
    · -- whoever was not put back is pending
      rw [Scheduler.state, Run.state, hrecord, hnew] at hsucceeded
      have hpending := (@revived_new g runId w.name t now).state id
      rw [Run.state, hsucceeded] at hpending
      cases hpending
    · exact ⟨old, getPair?_of_mem distinct hm, hold, houtputs.symm⟩

theorem Opened.backed (h : Opened w runId base name group lane s) :
    Scheduler.Backed w runId base name group s := by
  cases h with
  | start found linked ready after keyed clock =>
    exact (Orchestrator.backed_prepareStart found linked ready after).lend keyed clock
  | resume found recorded distinct ready after keyed clock =>
    exact (Orchestrator.backed_prepareResume found recorded distinct ready after).lend keyed clock

namespace Scheduler

/-! ## The row of an instance -/

/-- What a change writes about an instance is its record: the instance has its record and its row as
before, or it has moved, and has its new record as its row. -/
theorem Logs.row (h : Logs s t) (rows : List (String × StageRecord)) (id : String) :
    t.run.record id = s.run.record id ∧ getPair? id (t.recorded rows t.writes) =
        getPair? id (s.recorded rows s.writes) ∨
      id ∈ s.run.stages.map (·.1) ∧
        getPair? id (t.recorded rows t.writes) = some (t.run.record id) := by
  have hmoves : ∀ {j r after}, Moves s t j r after → after.filterMap journalOf = [] →
      t.run.record id = s.run.record id ∧ getPair? id (t.recorded rows t.writes) =
          getPair? id (s.recorded rows s.writes) ∨
        id ∈ s.run.stages.map (·.1) ∧
          getPair? id (t.recorded rows t.writes) = some (t.run.record id) := by
    intro j r after hm hafter
    rw [hm.record, hm.toSteady.recorded, hm.writes hafter, recorded_state, getPair?_putPair]
    by_cases hid : id = j
    · exact Or.inr ⟨hid ▸ hm.present, by simp [hid]⟩
    · exact Or.inl (by simp [hid])
  cases h with
  | still steady stages effects =>
    obtain ⟨notes, he, hq⟩ := effects
    obtain ⟨ws, hw, hnone⟩ := writes_of_quiet he hq
    refine Or.inl ⟨by rw [Run.record, stages, Run.record], ?_⟩
    rw [steady.recorded, hw, recorded, List.foldl_append]
    exact RunStore.row_of_unwritten fun r => hnone _ id r
  | moved moves => exact hmoves moves rfl
  | started moves => exact hmoves moves rfl

/-- As long as an instance has the record that it began with, its row is what it was; and then it is
the record of the instance. -/
def Rowed (rows : List (String × StageRecord)) (s₀ s : Scheduler) : Prop :=
  ∀ id, s.run.record id = s₀.run.record id ∧
      getPair? id (s.recorded rows s.writes) = getPair? id rows ∨
    id ∈ s₀.graph.ids ∧ getPair? id (s.recorded rows s.writes) = some (s.run.record id)

theorem Poised.rowed (h : Poised s) (rows : List (String × StageRecord)) : Rowed rows s s := by
  intro id
  refine Or.inl ⟨rfl, ?_⟩
  rw [writes, h.effects]
  rfl

theorem Rowed.logs (hf : Framed s) (hg : s.graph = s₀.graph) (h : Rowed rows s₀ s)
    (hl : Logs s t) : Rowed rows s₀ t := by
  intro id
  rcases hl.row rows id with ⟨hrecord, hrow⟩ | ⟨hpresent, hrow⟩
  · rw [hrecord, hrow]
    exact h id
  · rw [hf.keys, hg] at hpresent
    exact Or.inr ⟨hpresent, hrow⟩

theorem Leads.rowed (h₀ : Poised s₀) (h : Leads s₀ s) (rows : List (String × StageRecord)) :
    Rowed rows s₀ s := by
  have hboth : s.graph = s₀.graph ∧ Rowed rows s₀ s :=
    h.keeps (P := fun s => s.graph = s₀.graph ∧ Rowed rows s₀ s) h₀.framed h₀.keyed
      ⟨rfl, h₀.rowed rows⟩
      (fun _ _ hf hu hw => ⟨hw.steady.graph.trans hu.1, hu.2.logs hf hu.1 hw.logs⟩)
      fun _ _ _ hf hu hr => ⟨(hr.logs hf).steady.graph.trans hu.1,
        hu.2.logs hf hu.1 (hr.logs hf)⟩
  exact hboth.2

/-! ## The release decision -/

/-- The whole journal, carried out on what was recorded before, has the decision of the run. -/
theorem recorded_decision (h₀ : s₀.effects = []) (hd : s₀.decision? = release)
    (hs : Steady s₀ s) : s.writes.foldl (releaseAfter s.run.id) release = s.decision? := by
  rcases hdecision : s.decision? with _ | o
  · rcases hrecorded : s.writes.foldl (releaseAfter s.run.id) release with _ | o
    · rfl
    · rw [decision_of_recorded h₀ hd hs List.prefix_rfl hrecorded] at hdecision
      cases hdecision
  · exact recorded_of_decision h₀ hd hs hdecision

/-! ## The end of a run -/

/-- The end of a run that did not break off is the last thing that is written, with the status and
the errors that the run is left with. -/
theorem writes_finish (whole : s.crash = none) : ∃ ws, s.finish.writes =
    ws ++ [.finish s.finish.run.id s.finish.run.status s.finish.run.errors] := by
  unfold finish
  dsimp only
  rw [s.cleanUp_spec.1, whole, if_neg (by simp)]
  refine ⟨s.cleanUp.writes, ?_⟩
  simp [write, emit, writes, journalOf]

/-- The scheduler goes on until everything has ended, and the run is over: it did not break off. -/
structure Returns (s t : Scheduler) : Prop where
  goes : t = s.proceed
  finished : t.run.finished = true
  whole : t.crash = none

theorem Returns.leads (h : Returns s t) : Leads s t := h.goes ▸ (goes_proceed s).leads

/-- A run may be over as soon as it has begun. -/
theorem returns_of_begin (room : 0 < s.maxParallel) (finished : s.begin.run.finished = true)
    (whole : s.begin.crash = none) : ∃ u, Leads s u ∧ u.Returns s.begin :=
  ⟨_, (Step.gates (.subscribe s.self) []).leads, begin_eq room, finished, whole⟩

/-- A run may be over after a turn. -/
theorem returns_of_turn (going : s.ended = false) (ended : s.turn.ended = true)
    (finished : s.turn.run.finished = true) (whole : s.turn.crash = none) :
    ∃ u, Leads s u ∧ u.Returns s.turn := by
  rcases s.turn_cases with ⟨u, hu, hturn⟩ | hturn
  · exact ⟨u, hu.leads, hturn, finished, whole⟩
  · rw [hturn, going] at ended
    cases ended

theorem Returns.writes (h : Returns s t) :
    ∃ ws, t.writes = ws ++ [.finish t.run.id t.run.status t.run.errors] := by
  obtain ⟨rfl, hfinished, hwhole⟩ := h
  rcases s.proceed_cases with ⟨v, _, hv⟩ | ⟨_, hopen⟩
  · rw [hv] at hwhole ⊢
    exact writes_finish (v.crash_finish.symm.trans hwhole)
  · rw [hfinished] at hopen
    cases hopen

end Scheduler

namespace RunStore

/-! ## What is read back -/

/-- What is read back of the run is the run, under the name and in the group that it was started
with. -/
structure PersistedRun.GivesBack (old : PersistedRun) (name group : String) (s : Scheduler) :
    Prop where
  runId : old.runId = s.run.id
  workflow : old.row.workflow = name
  group : old.row.group = group
  trigger : old.row.trigger = s.run.trigger
  /-- The trigger is kept as a record of named fields. -/
  readable : TriggerRecord.ofJson old.row.trigger.toJson = .ok s.run.trigger.recorded
  status : old.row.status = s.run.status
  errors : old.row.errors = s.run.errors
  release : old.release = s.decision?
  stages : ∀ id ∈ s.graph.ids, ∃ r, getPair? id old.stages = some r ∧ r.state = s.state id ∧
    r.outputs = (s.run.record id).outputs

theorem load_of_row (h : getPair? runId st.runs = some entry) :
    st.load runId = .ok { runId, row := entry, stages := st.rows runId
                          gates := (st.gates.map (·.2)).filter (·.runId = runId)
                          release := st.release? runId } := by
  rw [load, h]
  rfl

theorem row_of_finish (h : getPair? runId st.runs = some entry) (now : Time) (status : RunStatus)
    (errors : List String) :
    getPair? runId (st.apply now (.finish runId status errors)).runs =
      some { entry with status, errors, finishedAt := some now } := by
  simp [apply, finishRun, changeRun, h]

end RunStore

namespace Scheduler

/-- What the store has of a run after its whole journal: the instances that have moved, the
decision, and what the run is about. -/
theorem Backed.stored (h₀ : Backed w runId base name group s₀) (h : Leads s₀ s)
    (hst : Recorded runId base s.writes st) :
    (∀ id, s.run.record id = s₀.run.record id ∧
          getPair? id (st.rows runId) = getPair? id (base.rows runId) ∨
        id ∈ s₀.graph.ids ∧ getPair? id (st.rows runId) = some (s.run.record id)) ∧
      st.release? runId = s.decision? ∧
      st.about? runId = some (name, group, s.run.trigger) := by
  have hsteady := h.steady h₀.framed h₀.keyed
  have hid : s.run.id = runId := hsteady.runId.trans h₀.named
  obtain ⟨hrows, hrelease, _⟩ := hst.spec
  refine ⟨?_, ?_, ?_⟩
  · have hrowed := h.rowed h₀.toPoised (base.rows runId)
    rw [Rowed, recorded, hid, ← hrows] at hrowed
    exact hrowed
  · rw [hrelease, ← hid]
    exact recorded_decision h₀.effects (hid ▸ h₀.decided) hsteady
  · rw [hst.about, h₀.about, hsteady.trigger]

/-- When everything has ended, the row of every instance has its state and its outputs: the instance
has moved, or it was put back. -/
theorem Backed.row_of_finished (h₀ : Backed w runId base name group s₀) (h : Leads s₀ s)
    (hst : Recorded runId base s.writes st) (finished : s.run.finished = true)
    (hid : id ∈ s.graph.ids) : ∃ r, getPair? id (st.rows runId) = some r ∧
      r.state = s.state id ∧ r.outputs = (s.run.record id).outputs := by
  rcases (h₀.stored h hst).1 id with ⟨hrecord, hrow⟩ | ⟨_, hrow⟩
  · have hstate : s.state id = s₀.state id := congrArg StageRecord.state hrecord
    have hended := (h.framed h₀.framed h₀.keyed).1.ended_of_finished finished hid
    have hsucceeded : s₀.state id = .succeeded := by
      rcases h₀.toPoised.state id with hpending | hsucceeded
      · rw [hstate, hpending] at hended
        cases hended
      · exact hsucceeded
    obtain ⟨r, hr, hstored, houtputs⟩ := h₀.restored id hsucceeded
    refine ⟨r, hrow.trans hr, ?_, ?_⟩
    · rw [hstored, hstate, hsucceeded]
    · rw [houtputs, hrecord]
  · exact ⟨_, hrow, rfl, rfl⟩

end Scheduler

/-! ## The law -/

/-- At every moment of a run that has a store, be it a new one or one that is taken up, and whatever
others do to the store: the row of an instance that has moved is its record, and the release
decision is read back. When the run is over, its end is written down, and the store gives back the
run: its trigger, the states and outputs of its instances, its release decision, its status and its
errors, with the name and the group that it was started with. That group is the lane, unless it is
empty. -/
theorem the_journal_mirrors_the_run (h₀ : Opened w runId base name group lane s₀) :
    (∀ s st, Leads s₀ s → Recorded runId base s.writes st →
      (∀ id, s.state id ≠ s₀.state id →
        getPair? id (st.rows runId) = some (s.run.record id)) ∧
      ∃ old, st.load runId = .ok old ∧ old.stages = st.rows runId ∧
        old.release = s.decision?) ∧
    ∀ u s, Leads s₀ u → u.Returns s → s.run.workflow = w.name ∧ (group ≠ "" → lane = group) ∧
      ∃ ws, s.writes = ws ++ [.finish runId s.run.status s.run.errors] ∧
        ∀ st now, Recorded runId base ws st → ∃ old,
          (st.apply now (.finish runId s.run.status s.run.errors)).load runId = .ok old ∧
          old.GivesBack name group s := by
  have hbacked := h₀.backed
  refine ⟨fun s st h hst => ?_, fun u s h hreturns => ?_⟩
  · obtain ⟨hrows, hrelease, habout⟩ := hbacked.stored h hst
    refine ⟨fun id hmoved => ?_, ?_⟩
    · rcases hrows id with ⟨hrecord, _⟩ | ⟨_, hrow⟩
      · exact absurd (congrArg StageRecord.state hrecord) hmoved
      · exact hrow
    · obtain ⟨entry, hentry, _⟩ := Option.map_eq_some_iff.1 habout
      exact ⟨_, RunStore.load_of_row hentry, rfl, hrelease⟩
  · have hs : Leads s₀ s := h.trans hreturns.leads
    have hsteady := hs.steady hbacked.framed hbacked.keyed
    have hid : s.run.id = runId := hsteady.runId.trans hbacked.named
    obtain ⟨ws, hws⟩ := hreturns.writes
    rw [hid] at hws
    refine ⟨hsteady.workflow.trans hbacked.workflow, h₀.lane_eq, ws, hws, fun st now hst => ?_⟩
    -- the end is the last write, so the whole journal was carried out
    have hwhole : Recorded runId base s.writes
        (st.apply now (.finish runId s.run.status s.run.errors)) := hws ▸ hst.write now _
    obtain ⟨_, hrelease, habout⟩ := hbacked.stored hs hwhole
    obtain ⟨entry, hentry, hsame⟩ := Option.map_eq_some_iff.1 (hst.about.trans hbacked.about)
    obtain ⟨rfl, hrest⟩ := Prod.mk.inj hsame
    obtain ⟨rfl, htrigger⟩ := Prod.mk.inj hrest
    have htrigger : entry.trigger = s.run.trigger := htrigger.trans hsteady.trigger.symm
    refine ⟨_, RunStore.load_of_row (RunStore.row_of_finish hentry now _ _), {
      runId := hid.symm, workflow := rfl, group := rfl, trigger := htrigger, readable := ?_
      status := rfl, errors := rfl, release := hrelease
      stages := fun id hid => hbacked.row_of_finished hs hwhole hreturns.finished hid }⟩
    rw [← htrigger]
    exact TriggerRecord.ofJson_toJson _

/-! ## A release that is taken up, and a run that gets another name -/

namespace Scheduler

/-- The scheduler of the release that is taken up while it waits for its gate. -/
def shipAgain : Scheduler :=
  match ({ store := some shipStored } : Orchestrator).prepareResume shipWorkflow
    (some (.fixed "1.3.0" none)) "r1" 0 5 with
  | (_, .ready s _) => { s with gates := {}, now := 6 }
  | _ => default

/-- The gate is approved, and the body of the release ends. -/
def shipDelivered : Scheduler :=
  match shipAgain.begin.gates.decide "r1/prod" (.status .approved) "ann" "" 7 with
  | .ok c =>
    (({ shipAgain.begin with gates := c.table }.deliver c.notices).turn.endBody "deploy" .default).2
  | .error _ => shipAgain.begin

theorem leads_shipDelivered : Leads shipAgain shipDelivered := by
  unfold shipDelivered
  split
  · rename_i c hc
    exact (((leads_begin _).trans (Step.gates (.decide hc) c.notices).leads).trans
      (leads_turn _)).trans (leads_endBody _ _ _)
  · exact leads_begin _

end Scheduler

theorem opened_shipAgain : ∃ base group lane, Opened Scheduler.shipWorkflow "r1" base "ship" group
    lane Scheduler.shipAgain := by
  have hready : (match ({ store := some shipStored } : Orchestrator).prepareResume
      Scheduler.shipWorkflow (some (.fixed "1.3.0" none)) "r1" 0 5 with
    | (o, .ready _ _) => o.store.isSome
    | _ => false) = true := by decide +kernel
  have hrow : (getPair? "r1" shipStored.runs).map (·.workflow) = some "ship" := by decide +kernel
  obtain ⟨row, recorded, hname⟩ := Option.map_eq_some_iff.1 hrow
  split at hready
  · rename_i o s lane ready
    obtain ⟨base, after⟩ := Option.isSome_iff_exists.1 hready
    have keyed : GateTable.Keyed ({} : GateTable Nat) := by
      intro id g hg
      cases hg
    have hopened := Opened.resume rfl recorded (by decide +kernel) ready after keyed 6
    rw [hname] at hopened
    refine ⟨base, row.group, lane, ?_⟩
    unfold Scheduler.shipAgain
    rw [ready]
    exact hopened
  · cases hready

/-- The store gives back the release, with the version that was decided on before. -/
theorem the_release_is_given_back :
    ∃ base group lane, Opened Scheduler.shipWorkflow "r1" base "ship" group lane
        Scheduler.shipAgain ∧
      ∃ u, Leads Scheduler.shipAgain u ∧ u.Returns Scheduler.shipDelivered.turn ∧
        ∃ st old, Recorded "r1" base Scheduler.shipDelivered.turn.writes st ∧
          st.load "r1" = .ok old ∧
          old.row.workflow = "ship" ∧ old.row.status = .succeeded ∧
          old.release = some { decision := .release, candidate := "1.2.0", latest := none } ∧
          ∃ r, getPair? "deploy" old.stages = some r ∧ r.state = .succeeded := by
  obtain ⟨base, group, lane, hopened⟩ := opened_shipAgain
  obtain ⟨u, hu, hreturns⟩ := Scheduler.returns_of_turn (s := Scheduler.shipDelivered)
    (by decide +kernel) (by decide +kernel) (by decide +kernel) (by decide +kernel)
  have hleads := Scheduler.leads_shipDelivered.trans hu
  obtain ⟨_, _, ws, hws, hback⟩ := (the_journal_mirrors_the_run hopened).2 u _ hleads hreturns
  have hrecorded := RunStore.recorded_foldl "r1" base 8 ws
  obtain ⟨old, hold, hgives⟩ := hback _ 8 hrecorded
  obtain ⟨r, hr, hstate, _⟩ := hgives.stages "deploy" (by decide +kernel)
  refine ⟨base, group, lane, hopened, u, hleads, hreturns, _, old, hws ▸ hrecorded.write 8 _, hold,
    hgives.workflow, hgives.status.trans (by decide +kernel),
    hgives.release.trans (by decide +kernel), r, hr, hstate.trans (by decide +kernel)⟩

/-- A workflow that builds an image, under a name of choice. -/
def imageWorkflow (name : String) : Workflow where
  name := name
  stages := [{ name := "build", outputs := ["image"] }]

/-- What the store has of a run that has built the image in no group. -/
def imageStored : RunStore :=
  match shipHost.prepareStart { imageWorkflow "ci" with concurrency := "" } {} none "r1" 0 0 with
  | (o, .ready s _) => (s.begin.endBody "build" .default).2.turn.writes.foldl
      (fun st w => st.apply 0 w) (o.store.getD {})
  | _ => {}

/-- The scheduler of the run that is taken up under another name. -/
def imageAgain : Scheduler :=
  match ({ store := some imageStored } : Orchestrator).prepareResume (imageWorkflow "delivery") none
    "r1" 0 5 with
  | (_, .ready s _) => s
  | _ => default

/-- When a run is taken up by a workflow of another name, the run has that name, and the group of
that workflow if it had none. The store gives back those that it was started with. -/
theorem the_store_does_not_hear_of_a_new_name :
    ∃ base, Opened (imageWorkflow "delivery") "r1" base "ci" "" "delivery@refs/heads/main"
        imageAgain ∧
      ∃ u, Leads imageAgain u ∧ u.Returns imageAgain.begin ∧
        imageAgain.begin.run.workflow = "delivery" ∧
        ∃ st old, Recorded "r1" base imageAgain.begin.writes st ∧ st.load "r1" = .ok old ∧
          old.row.workflow = "ci" ∧ old.row.group = "" := by
  have hrow : (getPair? "r1" imageStored.runs).map (fun row => (row.workflow, row.group)) =
      some ("ci", "") := by decide +kernel
  obtain ⟨row, recorded, habout⟩ := Option.map_eq_some_iff.1 hrow
  obtain ⟨hname, hgroup⟩ := Prod.mk.inj habout
  have hready : (match ({ store := some imageStored } : Orchestrator).prepareResume
      (imageWorkflow "delivery") none "r1" 0 5 with
    | (o, .ready _ lane) => o.store.isSome && lane = "delivery@refs/heads/main"
    | _ => false) = true := by decide +kernel
  split at hready
  · rename_i o s lane ready
    simp only [Bool.and_eq_true, decide_eq_true_eq] at hready
    obtain ⟨hsome, rfl⟩ := hready
    obtain ⟨base, after⟩ := Option.isSome_iff_exists.1 hsome
    have hopened := Opened.resume rfl recorded (by decide +kernel) ready after
      (Orchestrator.poised_prepareResume ready).keyed s.now
    rw [hname, hgroup] at hopened
    have hs : imageAgain = s := by rw [imageAgain, ready]
    have hlent : Opened (imageWorkflow "delivery") "r1" base "ci" "" "delivery@refs/heads/main"
        imageAgain := hs ▸ hopened
    obtain ⟨u, hu, hreturns⟩ := Scheduler.returns_of_begin (s := imageAgain) (by decide +kernel)
      (by decide +kernel) (by decide +kernel)
    have hrecorded := RunStore.recorded_foldl "r1" base 5 imageAgain.begin.writes
    obtain ⟨entry, hentry, hsame⟩ :=
      Option.map_eq_some_iff.1 (hrecorded.about.trans hlent.backed.about)
    obtain ⟨hci, hrest⟩ := Prod.mk.inj hsame
    exact ⟨base, hlent, u, hu, hreturns, by decide +kernel, _, _, hrecorded,
      RunStore.load_of_row hentry, hci, (Prod.mk.inj hrest).1⟩
  · cases hready

end GatedPipeline
