-- However a run is scheduled, it comes to what the reference says: the order
-- in which bodies end and gates are decided makes no difference, nor does the
-- number of bodies that may run at once.
import GatedPipeline.Proofs.Run.Agreement
namespace GatedPipeline.World
open GatedPipeline.Scheduler

variable {w : World} {g : StageGraph} {trigger : Trigger} {s₀ s : Scheduler}

/-! ## The end of a run -/

/-- In a run that agrees with the reference and has finished, every instance has met its fate. -/
theorem Agrees.state_of_finished (hg : g.Sound) (hf : Framed s) (h : w.Agrees g trigger s)
    (done : s.run.finished = true) {id : String} (hid : id ∈ g.ids) :
    s.state id = (w.fate g trigger id).state :=
  h.state_eq hg hid (hf.ended_of_finished done (by rwa [h.planned]))

/-- What is published of an instance in the end is what its fate says. -/
theorem Agrees.peek?_of_finished (hg : g.Sound) (hf : Framed s) (h : w.Agrees g trigger s)
    (ht : s.fatal = false) (done : s.run.finished = true) {i : Instance}
    (hi : g.instance? i.id = some i) {k : String} (hk : OwnKey i.id k) :
    s.run.outputs.peek? i.id k = getPair? k (w.fate g trigger i.id).outputs := by
  by_cases hs : s.state i.id = .succeeded
  · exact h.peek?_of_succeeded hg ht hi hs hk
  · rw [h.bare.hidden ht i (by rwa [h.planned]) k hk (Or.inl hs),
      w.getPair?_fate trigger hg hi (Or.inl _)]
    rwa [← h.state_of_finished hg hf done (key_mem_of_getPair? hi)]

theorem Agrees.status_eq (hg : g.Sound) (hf : Framed s) (h : w.Agrees g trigger s) (calm : s.Calm)
    (whole : s.crash = none) (done : s.run.finished = true) :
    s.finish.run.status = w.status g trigger := by
  obtain ⟨hfatal, hsuper⟩ := Prod.mk.inj calm
  have hkeys : s.run.stages.map (·.1) = g.ids := by rw [hf.keys, h.planned]
  have hnodup : (s.run.stages.map (·.1)).Nodup := hkeys ▸ hg.ids_nodup
  have hfailed : (s.run.stages.any fun p => p.2.state == .failed) =
      g.ids.any fun id => (w.fate g trigger id).state = .failed := by
    rw [← hkeys, List.any_map, Bool.eq_iff_iff, List.any_eq_true, List.any_eq_true]
    refine exists_congr fun p => and_congr_right fun hp => ?_
    have hid : p.1 ∈ g.ids := hkeys ▸ List.mem_map_of_mem hp
    rw [Function.comp_apply, ← h.state_of_finished hg hf done hid,
      state_eq_of_getPair? (getPair?_of_mem hnodup hp)]
    simp
  rw [status_finish whole, finalStatus, status, ← hfailed, hfatal, hsuper]
  rfl

/-! ## Schedules -/

/-- One thing that happens in a run: the scheduler looks at an instance or starts its body, a body
ends and is heard of at once, or a gate is decided. -/
inductive Deed where
  | look (id : String)
  | start (id : String)
  | finish (id : String)
  | decide (name : String)

/-- What a body was given when it was started. -/
def given? (effects : List Effect) (id : String) : Option (List (String × Value)) :=
  effects.findSome? fun
    | .dispatched j inputs => if j = id then some inputs else none
    | _ => none

/-- What a deed makes of a run in the world, if it can be done now. -/
def attempt (w : World) (s : Scheduler) : Deed → Option Scheduler
  | .look id => if s.halted then none else some (s.visit id).2
  | .start id =>
    if s.halted || decide (s.maxParallel ≤ s.inFlight.length) || !s.startable id then none
    else (s.gatherInputs id).toOption.map (s.start id)
  | .finish id =>
    match s.graph.instance? id, given? s.effects id, s.queue with
    | some i, some inputs, [] =>
      some (complete { s with bodies := s.bodies.filter (·.id ≠ id) } id (w.body i inputs))
    | _, _, _ => none
  | .decide name =>
    let status : GateStatus := if w.approves name then .approved else .rejected
    match s.gates.decide (gateId s.run.id name) (.status status) "ann" "" s.now with
    | .ok c => some { s with gates := c.table }
    | .error _ => none

/-- Whether the gates of the instances are decided as the world says, and nothing is left to be
heard. -/
def settled (w : World) (s : Scheduler) : Bool :=
  s.queue.isEmpty && s.graph.byId.all fun p =>
    match p.2.gateName.filter (· ≠ "") with
    | none => true
    | some name => (s.gates.get? (gateId s.run.id name)).all fun gate =>
        gate.status == .pending || (gate.status == .approved) == w.approves name

/-- A deed that is done in the world, and leaves nothing to be heard. -/
def perform (w : World) (s : Scheduler) (d : Deed) : Option Scheduler :=
  (w.attempt s d).filter w.settled

theorem holds_of_settled (h : w.settled s = true) : w.Holds s := by
  obtain ⟨hqueue, hgates⟩ := Bool.and_eq_true_iff.1 h
  refine ⟨fun id r hm => ?_, fun i hi name hn gate hget hdecided => ?_⟩
  · rw [List.isEmpty_iff.1 hqueue] at hm
    cases hm
  · have hone := List.all_eq_true.1 hgates (i.id, i) (mem_of_getPair? hi)
    dsimp only at hone
    rw [hn] at hone
    simp only [hget, Option.all_some, Bool.or_eq_true, beq_iff_eq] at hone
    have hsame := hone.resolve_left hdecided
    rw [← hsame, beq_iff_eq]

theorem dispatched_of_given {effects : List Effect} {id : String} {inputs : List (String × Value)}
    (h : given? effects id = some inputs) : .dispatched id inputs ∈ effects := by
  obtain ⟨e, hm, he⟩ := List.exists_of_findSome?_eq_some h
  cases e with
  | dispatched j ins =>
    dsimp only at he
    split at he
    · rename_i hid
      cases he
      rwa [← hid]
    · cases he
  | journal | moved | shutdown | notice => cases he

/-- A deed is made of steps in the world. -/
theorem within_perform {t : Scheduler} {d : Deed} (hh : w.Holds s) (h : w.perform s d = some t) :
    w.Within s t ∧ w.Holds t := by
  obtain ⟨hdone, hsettled⟩ := Option.filter_eq_some_iff.1 h
  have hht := holds_of_settled hsettled
  refine ⟨?_, hht⟩
  cases d with
  | look id =>
    simp only [attempt] at hdone
    split at hdone
    · cases hdone
    · rename_i hgoing
      cases hdone
      exact .single ⟨.visit (by simpa using hgoing) id, hht⟩
  | start id =>
    simp only [attempt] at hdone
    split at hdone
    · cases hdone
    · rename_i hable
      simp only [Bool.or_eq_true, decide_eq_true_eq, Bool.not_eq_true', not_or,
        Bool.not_eq_true, Bool.not_eq_false] at hable
      rcases hinputs : s.gatherInputs id with fault | inputs
      · rw [hinputs] at hdone
        cases hdone
      · rw [hinputs] at hdone
        cases hdone
        exact .single ⟨.start hable.1.1 hable.1.2 hable.2 hinputs, hht⟩
  | finish id =>
    simp only [attempt] at hdone
    split at hdone
    · rename_i i inputs hi hgiven hqueue
      cases hdone
      -- the report is put into the queue, which is empty, and taken from it
      have hreport := Step.report (s := s) id (w.body i inputs)
      refine .tail (.single ⟨hreport, ⟨fun j r hm => ?_, hh.gates⟩⟩) ⟨?_, hht⟩
      · simp only [push, hqueue, List.nil_append, List.mem_singleton] at hm
        cases hm
        exact ⟨i, inputs, hi, dispatched_of_given hgiven, rfl⟩
      · have htake := @Step.take ({ s with bodies := s.bodies.filter (·.id ≠ id) }.push
          (.done id (w.body i inputs))) (.done id (w.body i inputs)) [] (by simp [push, hqueue])
        simpa [push, hqueue, handle] using htake
    · cases hdone
  | decide name =>
    simp only [attempt] at hdone
    split at hdone
    · rename_i c hc
      cases hdone
      exact .single ⟨.gates (.decide hc) [], hht⟩
    · cases hdone

theorem within_schedule {t : Scheduler} {ds : List Deed} (hh : w.Holds s)
    (h : ds.foldlM w.perform s = some t) : w.Within s t ∧ w.Holds t := by
  induction ds generalizing s with
  | nil =>
    cases h
    exact ⟨.refl, hh⟩
  | cons d ds ih =>
    obtain ⟨u, hu, hrest⟩ := Option.bind_eq_some_iff.1 h
    obtain ⟨hone, hhu⟩ := within_perform hh hu
    obtain ⟨hmore, hht⟩ := ih hhu hrest
    exact ⟨hone.trans hmore, hht⟩

/-! ## The law -/

/-- In a world where bodies, gates and the release source always answer alike, a run that finishes
without being aborted or cancelled comes to what the reference says, however it is scheduled: every
instance ends in the state of its fate and publishes just what its fate says, and the run has the
status that follows. Of what is visible this leaves out the tag of the run, which is no output of an
instance. -/
theorem every_schedule_comes_to_the_reference (h₀ : Blank s₀) (hs : w.Suits s₀) (hh : w.Holds s₀)
    (h : w.Within s₀ s) (calm : s.Calm) (whole : s.crash = none) (done : s.run.finished = true) :
    (∀ i, s₀.graph.instance? i.id = some i →
      s.state i.id = (w.fate s₀.graph s₀.run.trigger i.id).state ∧
      ∀ k, OwnKey i.id k → s.run.outputs.peek? i.id k =
        getPair? k (w.fate s₀.graph s₀.run.trigger i.id).outputs) ∧
    s.finish.run.status = w.status s₀.graph s₀.run.trigger := by
  have hg := h₀.framed.sound
  have ha₀ : w.Agrees s₀.graph s₀.run.trigger s₀ := {
    planned := rfl, triggered := rfl
    flows := h₀.toFresh.flows, bare := h₀.bare
    rooted := h₀.toFresh.guarded.rooted, tidy := h₀.tidy
    stands := fun i _ => stands_of_unready (by rw [h₀.state]; rfl) (by rw [h₀.state]; simp)
      (by rw [h₀.state]; simp)
    awaits := by intro id gid hgid; rw [h₀.awaiting] at hgid; cases hgid }
  obtain ⟨ha, _, _⟩ := h.agrees h₀.toPoised hs hh ha₀ calm
  obtain ⟨hf, _⟩ := h.leads.framed h₀.framed h₀.keyed
  have ht : s.fatal = false := congrArg Prod.fst calm
  exact ⟨fun i hi => ⟨ha.state_of_finished hg hf done (key_mem_of_getPair? hi),
    fun k hk => ha.peek?_of_finished hg hf ht done hi hk⟩, ha.status_eq hg hf calm whole done⟩

/-! ## A release, once more -/

/-- The world in which the image is built, the gate is approved and version 1.2.0 is released. -/
def shipWorld : World where
  body := fun i _ => .success (i.template.outputs.map fun k => (k, .text (i.id ++ ":" ++ k)))
  outcome := some { decision := .release, candidate := "1.2.0", latest := none }
  approves := fun _ => true

/-- What happens in the run, one thing after the other. -/
def shipSchedule : List Deed :=
  [.look "build", .start "build", .finish "build", .look "deploy", .decide "prod", .look "deploy",
    .start "deploy", .finish "deploy"]

/-- A run of stages without conditions, whose source is that of the world. -/
theorem hosts_of_source (source : VersionSource) (he : s.engine.map (·.source) = some source)
    (hsource : w.Settles source) (hf : s.failFast = false)
    (hall : (s.graph.byId.all fun p =>
      !p.2.template.failFast && p.2.template.condition.isNone) = true) : w.Hosts s := by
  have hstage : ∀ i, s.graph.instance? i.id = some i →
      i.template.failFast = false ∧ i.template.condition = none := by
    intro i hi
    have hone := List.all_eq_true.1 hall (i.id, i) (mem_of_getPair? hi)
    simpa using hone
  refine ⟨⟨hf, fun i hi => (hstage i hi).1⟩, fun e hengine => ?_, fun hnone => ?_,
    fun i hi text refs htext => ?_⟩
  · rw [hengine] at he
    rwa [show e.source = source from Option.some.inj he]
  · rw [hnone] at he
    cases he
  · rw [(hstage i hi).2] at htext
    cases htext

theorem blank_shipStart : Blank shipStart ∧
    shipStart.engine = some { source := .fixed "1.2.0" none } := by
  obtain ⟨_, _, h⟩ := prepareStart_shipStart
  obtain ⟨_, _, hs, _⟩ := Orchestrator.prepareStart_ready h
  exact ⟨blank_prepareStart h, by rw [hs]; rfl⟩

theorem the_image_is_shipped_as_the_reference_says :
    Blank shipStart ∧ shipWorld.Suits shipStart ∧ shipWorld.Holds shipStart ∧
      ∃ s, shipWorld.Within shipStart s ∧ s.Calm ∧ s.crash = none ∧ s.run.finished = true ∧
        s.state "deploy" =
          (shipWorld.fate shipStart.graph shipStart.run.trigger "deploy").state ∧
        s.finish.run.status = shipWorld.status shipStart.graph shipStart.run.trigger ∧
        s.finish.run.status = .succeeded := by
  have hsuits : shipWorld.Suits shipStart := {
    hosts_of_source _ (by rw [blank_shipStart.2]; rfl) (fun _ => rfl) (by decide +kernel)
      (by decide +kernel) with
    decision := by rw [decision?, blank_shipStart.2]; intro o ho; cases ho }
  have hholds : shipWorld.Holds shipStart := holds_of_settled (by decide +kernel)
  have hrun : (shipSchedule.foldlM shipWorld.perform shipStart).any (fun s =>
      s.flags = (false, false) && s.crash.isNone && s.run.finished &&
        s.finish.run.status = .succeeded) = true := by decide +kernel
  rcases hs : shipSchedule.foldlM shipWorld.perform shipStart with _ | s
  · rw [hs] at hrun
    cases hrun
  · rw [hs] at hrun
    simp only [Option.any_some, Bool.and_eq_true, decide_eq_true_eq, Option.isNone_iff_eq_none]
      at hrun
    obtain ⟨⟨⟨hcalm, hwhole⟩, hdone⟩, hstatus⟩ := hrun
    have hwithin := (within_schedule hholds hs).1
    obtain ⟨hfates, hreference⟩ := every_schedule_comes_to_the_reference blank_shipStart.1 hsuits
      hholds hwithin hcalm hwhole hdone
    have hmem : "deploy" ∈ shipStart.graph.byId.map (·.1) := by decide +kernel
    obtain ⟨i, hi⟩ := exists_getPair?_of_key_mem hmem
    have hid : i.id = "deploy" := blank_shipStart.1.framed.id_eq hi
    have hfate := (hfates i (by rw [hid]; exact hi)).1
    rw [hid] at hfate
    exact ⟨blank_shipStart.1, hsuits, hholds, s, hwithin, hcalm, hwhole, hdone, hfate, hreference,
      hstatus⟩

end GatedPipeline.World
