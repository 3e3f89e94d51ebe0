-- The courses of a run: chains of steps in which a body that reports is one in
-- flight. Along every course a body in flight that was not told to stop is that
-- of a running instance, and one request to cancel at most is noted.
import GatedPipeline.Proofs.Run.Bodies
namespace GatedPipeline.Scheduler

variable {s₀ s t u : Scheduler} {id : String}

/-! ## Courses -/

/-- A step in which only a body reports that is in flight. -/
structure Beat (s t : Scheduler) : Prop where
  step : Step s t
  reports : ∀ id report, .done id report ∈ t.queue →
    .done id report ∈ s.queue ∨ ∃ j ∈ s.bodies, j.id = id

/-- The beats of a run from one moment to another. -/
def Course : Scheduler → Scheduler → Prop := Relation.ReflTransGen Beat

theorem Course.refl (s : Scheduler) : Course s s := Relation.ReflTransGen.refl

theorem Course.trans (h : Course s t) (h' : Course t u) : Course s u :=
  Relation.ReflTransGen.trans h h'

theorem Course.snoc (h : Course s t) (h' : Beat t u) : Course s u := Relation.ReflTransGen.tail h h'

theorem Beat.course (h : Beat s t) : Course s t := Relation.ReflTransGen.single h

theorem Course.leads (h : Course s t) : Leads s t := by
  induction h with
  | refl => exact Leads.refl s
  | tail _ h ih => exact ih.snoc h.step

/-! ## Every turn is a course -/

/-- A step in which the scheduler is told of no report. -/
theorem Step.beat (h : Step s t)
    (hr : ∀ id report, .done id report ∈ t.queue → .done id report ∈ s.queue) : Beat s t :=
  ⟨h, fun id report hm => Or.inl (hr id report hm)⟩

theorem Step.beat_of_queue (h : Step s t) (hq : t.queue = s.queue) : Beat s t :=
  h.beat fun _ _ hm => hq ▸ hm

theorem Own.beat (hf : Framed s) (h : Own s t) : Beat s t := by
  cases h with
  | obey asked first => exact (Step.obey asked first).beat_of_queue (queue_obeyCancel s)
  | @take e rest next =>
    refine (Step.take next).beat fun id report hm => next ▸ List.mem_cons_of_mem e ?_
    cases e with
    | done id' report' => rwa [handle, queue_complete] at hm
    | gate | wake => exact hm
  | expire limit gid => exact (Step.expire limit gid).beat (leaves_expireGate s _ gid).reports
  | visit going id => exact (Step.visit going id).beat (attends_visit hf id).reports
  | start going room able gathered =>
    exact (Step.start going room able gathered).beat_of_queue
      (queue_of_desk (desk_move s _ .running none))
  | starve going able missing =>
    exact (Step.starve going able missing).beat_of_queue (queue_abort s _)
  | breakOff going able failed => exact (Step.breakOff going able failed).beat_of_queue rfl
  | stall unfinished idle => exact (Step.stall unfinished idle).beat_of_queue (queue_abort s _)
  | giveUp => exact Step.giveUp.beat_of_queue rfl
  | decide => exact Step.decide.beat (leaves_decide s).reports

theorem course_of_owns (hf : Framed s) (hk : s.gates.Keyed) (h : Owns s t) : Course s t := by
  induction h with
  | refl => exact Course.refl s
  | tail howns hown ih =>
    exact ih.snoc (hown.beat (Leads.framed hf hk (Owns.leads howns)).1)

theorem course_of_runs (hf : Framed s) (hk : s.gates.Keyed) (h : Runs s t) : Course s t := by
  rcases h with h | ⟨u, hu, rfl⟩
  · exact course_of_owns hf hk h
  · exact (course_of_owns hf hk hu).snoc (Step.finish.beat (attends_finish u).reports)

theorem course_gates {table : GateTable Nat} {notices : List (Nat × Gate)}
    (touched : GateTable.Touched s.run.id s.gates table notices) (heard : List (Nat × Gate)) :
    Course s ({ s with gates := table }.deliver heard) :=
  ((Step.gates touched heard).beat (leaves_told s table heard).reports).course

theorem course_begin (hf : Framed s) (hk : s.gates.Keyed) : Course s s.begin := by
  have hlisten : Course s { s with gates := s.gates.subscribe s.self } :=
    course_gates (.subscribe s.self) []
  obtain ⟨hfl, hkl⟩ := hlisten.leads.framed hf hk
  by_cases hsome : 0 < s.maxParallel
  · rw [begin_eq hsome]
    exact hlisten.trans (course_of_runs hfl hkl (runs_proceed _))
  · have hnone := Int.not_lt.1 hsome
    rw [begin, if_pos hnone]
    exact hlisten.snoc (Step.beat_of_queue (.refuse hnone) rfl)

theorem course_turn (hf : Framed s) (hk : s.gates.Keyed) : Course s s.turn :=
  course_of_runs hf hk (runs_turn s)

theorem course_interrupt (hf : Framed s) (hk : s.gates.Keyed) : Course s s.interrupt :=
  course_of_runs hf hk (runs_interrupt s)

theorem course_ready (hf : Framed s) (hk : s.gates.Keyed) : Course s s.ready.2 :=
  course_of_owns hf hk (owns_ready s)

theorem course_cancel (s : Scheduler) (reason : String) : Course s (s.cancel reason) := by
  refine ((Step.cancel reason).beat fun id report hm => ?_).course
  rcases List.mem_append.1 hm with hm | hm
  · exact hm
  · cases List.mem_singleton.1 hm

theorem course_endBody (s : Scheduler) (id : String) (script : BodyScript) :
    Course s (s.endBody id script).2 := by
  unfold endBody
  split
  · rename_i job i hjob _
    refine Beat.course ⟨Step.report id _, fun id' report hm => ?_⟩
    rcases List.mem_append.1 hm with hm | hm
    · exact Or.inl hm
    · cases List.mem_singleton.1 hm
      exact Or.inr ⟨job, List.mem_of_find?_eq_some hjob, by simpa using List.find?_some hjob⟩
  · exact Course.refl s

/-! ## What a step does to the bodies -/

/-- What a step does to the bodies, if the reports in the queue are those of bodies that have
ended. -/
inductive Tends (s : Scheduler) : Scheduler → Prop
  | attends {t : Scheduler} (h : Attends s t) : Tends s t
  | obeys (first : s.superseded = false) : Tends s s.obeyCancel
  | starts {id : String} (inputs : List (String × Value)) (ready : s.state id = .ready) :
      Tends s (s.start id inputs)
  | reports (id : String) (report : BodyReport) :
      Tends s ({ s with bodies := s.bodies.filter (·.id ≠ id) }.push (.done id report))

/-- The bodies in flight are those of running instances, but for bodies that were told to stop. A
report in the queue is that of a body that has ended, and one cancellation at most is noted. -/
structure Manned (s : Scheduler) : Prop where
  begun : ∀ j ∈ s.bodies, State.running.rank ≤ (s.state j.id).rank
  runs : ∀ j ∈ s.bodies, s.state j.id = .running ∨ j.cancelled = true
  told : ∀ id report, .done id report ∈ s.queue →
    State.running.rank ≤ (s.state id).rank ∧ ∀ j ∈ s.bodies, j.id ≠ id
  entries : s.run.errors.countP isCancelEntry = if s.superseded then 1 else 0

theorem Step.tends (hf : Framed s) (hm : Manned s) (h : Step s t) : Tends s t := by
  have hsame : ∀ {v : Scheduler}, v.superseded = s.superseded → v.queue = s.queue →
      v.run.errors = s.run.errors → v.bodies = s.bodies → v.run.stages = s.run.stages →
      Tends s v := fun hs hq he hb hst =>
    .attends (attends_of_same hs hq he hb fun j _ => state_congr hst j.id)
  cases h with
  | obey asked first => exact .obeys first
  | @take e rest next =>
    have hpop : Leaves s { s with queue := rest } :=
      ⟨rfl, fun _ _ hr => next ▸ List.mem_cons_of_mem e hr, rfl, rfl, rfl⟩
    cases e with
    | done id report =>
      have hended : ∀ j ∈ bodies { s with queue := rest }, j.id ≠ id :=
        (hm.told id report (next ▸ List.mem_cons_self)).2
      exact .attends (hpop.attends.trans (attends_complete (hf.rest rest) hended report))
    | gate | wake => exact .attends hpop.attends
  | expire _ gid => exact .attends (leaves_expireGate s _ gid).attends
  | visit _ id => exact .attends (attends_visit hf id)
  | start _ _ able _ => exact .starts _ (ready_of_startable able).1
  | starve => exact .attends (attends_abort s (not_isCancelEntry_missing _ _))
  | stall => exact .attends (attends_abort s (not_isCancelEntry_stalled s))
  | finish => exact .attends (attends_finish s)
  | breakOff | refuse | giveUp | clock => exact hsame rfl rfl rfl rfl rfl
  | cancel reason =>
    refine .attends (Leaves.attends ⟨rfl, fun id report hr => ?_, rfl, rfl, rfl⟩)
    rcases List.mem_append.1 hr with hr | hr
    · exact hr
    · cases List.mem_singleton.1 hr
  | report id r => exact .reports id r
  | gates _ heard => exact .attends (leaves_told s _ heard).attends
  | decide => exact .attends (leaves_decide s).attends

/-! ## Along a course -/

theorem Manned.attends (h : Manned s) (ha : Attends s t)
    (forward : ∀ id, (s.state id).rank ≤ (t.state id).rank) : Manned t where
  begun := by
    intro j hj
    obtain ⟨j', hj', hid, _⟩ := ha.bodies j hj
    exact hid ▸ Nat.le_trans (h.begun j' hj') (forward j'.id)
  runs := by
    intro j hj
    obtain ⟨j', hj', hid, hflag, hrun⟩ := ha.bodies j hj
    rcases h.runs j' hj' with hr | hc
    · exact hrun (hid ▸ hr)
    · exact Or.inr (hflag hc)
  told := by
    intro id report hr
    obtain ⟨hrank, hended⟩ := h.told id report (ha.reports id report hr)
    refine ⟨Nat.le_trans hrank (forward id), fun j hj => ?_⟩
    obtain ⟨j', hj', hid, _⟩ := ha.bodies j hj
    exact hid ▸ hended j' hj'
  entries := by
    obtain ⟨added, he, hnone⟩ := ha.errors
    rw [he, List.countP_append, h.entries, ha.superseded, List.countP_eq_zero.2, Nat.add_zero]
    exact fun text ht => by simp [hnone text ht]

theorem Manned.obey (h : Manned s) (first : s.superseded = false)
    (forward : ∀ id, (s.state id).rank ≤ (s.obeyCancel.state id).rank) : Manned s.obeyCancel := by
  have hnoted : ∀ reason : String,
      Manned ({ s with superseded := true }.addError s!"cancelled: {reason}") := by
    intro reason
    refine { h with entries := ?_ }
    have hnone := h.entries
    rw [first] at hnone
    show (s.run.errors ++ [s!"cancelled: {reason}"]).countP isCancelEntry = 1
    rw [List.countP_append, hnone, List.countP_singleton, isCancelEntry_reason]
    rfl
  exact (hnoted _).attends (attends_cancelEach _ _ _) forward

theorem Manned.start (h : Manned s) (ready : s.state id = .ready)
    (inputs : List (String × Value)) : Manned (s.start id inputs) := by
  have ho : (s.state id).isTerminal = false := by rw [ready]; rfl
  have heq := start_eq ho inputs
  have hstate : ∀ j, (s.start id inputs).state j = if j = id then .running else s.state j := by
    intro j
    rw [heq, state_putPair _ j rfl]
    rfl
  have hold : ∀ j, State.running.rank ≤ (s.state j).rank →
      (s.start id inputs).state j = s.state j := by
    intro j hj
    rw [hstate, if_neg]
    rintro rfl
    rw [ready] at hj
    exact absurd hj (by decide)
  have hrun : (s.start id inputs).state id = .running := (hstate id).trans (if_pos rfl)
  have hbodies : (s.start id inputs).bodies = s.bodies ++ [⟨id, inputs, false⟩] := by rw [heq]
  have hqueue : (s.start id inputs).queue = s.queue := by rw [heq]
  refine ⟨fun j hj => ?_, fun j hj => ?_, fun id' report hr => ?_, ?_⟩
  · rw [hbodies] at hj
    rcases List.mem_append.1 hj with hj | hj
    · rw [hold _ (h.begun j hj)]
      exact h.begun j hj
    · rw [List.mem_singleton.1 hj]
      exact Nat.le_of_eq (congrArg State.rank hrun.symm)
  · rw [hbodies] at hj
    rcases List.mem_append.1 hj with hj | hj
    · rw [hold _ (h.begun j hj)]
      exact h.runs j hj
    · rw [List.mem_singleton.1 hj]
      exact Or.inl hrun
  · obtain ⟨hrank, hended⟩ := h.told id' report (hqueue ▸ hr)
    rw [hold _ hrank, hbodies]
    refine ⟨hrank, fun j hj => ?_⟩
    rcases List.mem_append.1 hj with hj | hj
    · exact hended j hj
    · -- the instance that starts was ready, and one that has reported is further
      rw [List.mem_singleton.1 hj]
      rintro rfl
      rw [ready] at hrank
      exact absurd hrank (by decide)
  · rw [heq]
    exact h.entries

theorem Manned.report (h : Manned s) {report : BodyReport}
    (flying : .done id report ∈ s.queue ∨ ∃ j ∈ s.bodies, j.id = id) :
    Manned ({ s with bodies := s.bodies.filter (·.id ≠ id) }.push (.done id report)) where
  begun := fun j hj => h.begun j (List.mem_filter.1 hj).1
  runs := fun j hj => h.runs j (List.mem_filter.1 hj).1
  told := by
    intro id' report' hr
    rcases List.mem_append.1 hr with hr | hr
    · obtain ⟨hrank, hended⟩ := h.told id' report' hr
      exact ⟨hrank, fun j hj => hended j (List.mem_filter.1 hj).1⟩
    · cases List.mem_singleton.1 hr
      refine ⟨?_, fun j hj => by simpa using (List.mem_filter.1 hj).2⟩
      rcases flying with hq | ⟨j, hj, rfl⟩
      · exact (h.told id report hq).1
      · exact h.begun j hj
  entries := h.entries

theorem Beat.manned (hf : Framed s) (hk : s.gates.Keyed) (hm : Manned s) (h : Beat s t) :
    Manned t := by
  have hforward : ∀ id, (s.state id).rank ≤ (t.state id).rank := fun id =>
    (h.step.forward hf hk id).1
  cases h.step.tends hf hm with
  | attends ha => exact hm.attends ha hforward
  | obeys first => exact hm.obey first hforward
  | starts inputs ready => exact hm.start ready inputs
  | reports id report =>
    exact hm.report (h.reports id report (List.mem_append_right _ List.mem_cons_self))

/-! ## Before the first step -/

/-- A poised run of which no body was ever started, and nothing has gone wrong. -/
structure Untouched (s : Scheduler) : Prop extends Poised s where
  bodies : s.bodies = []
  unheard : ∀ id report, .done id report ∉ s.queue
  errors : s.run.errors = []

/-- Before a run begins it is lent the gate table as it is then. -/
theorem Untouched.lend (h : Untouched s) {table : GateTable Nat} (hk : table.Keyed) (now : Time) :
    Untouched { s with gates := table, now } :=
  { h with toPoised := h.toPoised.lend hk now }

theorem Untouched.manned (h : Untouched s) : Manned s where
  begun := by simp [h.bodies]
  runs := by simp [h.bodies]
  told := fun id report hr => absurd hr (h.unheard id report)
  entries := by simp [h.errors, h.superseded]

theorem Course.manned (h₀ : Untouched s₀) (h : Course s₀ s) : Manned s := by
  induction h with
  | refl => exact h₀.manned
  | tail hcourse hbeat ih =>
    obtain ⟨hf, hk⟩ := (Course.leads hcourse).framed h₀.framed h₀.keyed
    exact hbeat.manned hf hk ih

section
variable {o o' : Orchestrator} {w : Workflow} {group runId : String} {key : Nat} {now : Time}
  {source : Option VersionSource}

theorem untouched_prepareStart {trigger : Trigger}
    (h : o.prepareStart w trigger source runId key now = (o', .ready s group)) : Untouched s := by
  have hfresh := Orchestrator.fresh_prepareStart h
  obtain ⟨g, _, rfl, _⟩ := Orchestrator.prepareStart_ready h
  exact ⟨hfresh.toPoised, rfl, fun _ _ => List.not_mem_nil, rfl⟩

theorem errors_restoreStages (stages : List (String × StageRecord)) (r : Run) :
    (Orchestrator.restoreStages r stages).errors = r.errors := by
  induction stages generalizing r with
  | nil => rfl
  | cons p stages ih =>
    rw [Orchestrator.restoreStages_cons, ih, Orchestrator.restoreStage]
    split <;> rfl

theorem untouched_prepareResume
    (h : o.prepareResume w source runId key now = (o', .ready s group)) : Untouched s := by
  have hpoised := Orchestrator.poised_prepareResume h
  obtain ⟨g, t, stages, _, hs, hrun⟩ := Orchestrator.prepareResume_ready h
  refine ⟨hpoised, by rw [hs], fun id report hm => ?_, ?_⟩
  · rw [hs] at hm
    cases hm
  · have hstages := errors_restoreStages stages (Run.new runId t w.name g now)
    rcases hrun with ⟨hrun, _⟩ | ⟨outcome, _, hrun⟩
    · rw [hrun, hstages]
      rfl
    · rw [hrun, Orchestrator.restoreRelease]
      split <;> exact hstages

end

end GatedPipeline.Scheduler
