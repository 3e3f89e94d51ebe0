-- A failure that takes the siblings along. Where fail-fast holds for a stage and
-- not for the run, the failure of one of its instances cancels the others that
-- have not ended, and nobody else; and nothing comes of them or of what hangs on
-- them.
import GatedPipeline.Proofs.Run.Causes
import GatedPipeline.Proofs.Run.Halt
import GatedPipeline.Proofs.Run.Mirror
namespace GatedPipeline.Scheduler

variable {s₀ s t u v : Scheduler} {id sib : String} {i : Instance}

/-! ## Siblings -/

/-- The instance is another one of the same stage. -/
def Sibling (s : Scheduler) (i : Instance) (id : String) : Prop :=
  id ≠ i.id ∧ ∃ j ∈ s.graph.instance? id, j.template.name = i.template.name

instance (s : Scheduler) (i : Instance) (id : String) : Decidable (Sibling s i id) :=
  inferInstanceAs (Decidable (_ ∧ _))

theorem mem_siblings_iff (hf : Framed s) (hi : s.graph.instance? i.id = some i) :
    id ∈ s.graph.siblings i.id ↔ Sibling s i id := by
  have hsame : ((s.graph.instance? id).any fun j => j.name == i.name) = true ↔
      ∃ j ∈ s.graph.instance? id, j.template.name = i.template.name := by
    simp [Option.any_eq_true, Instance.name]
  simp only [StageGraph.siblings, hi, List.mem_filter, Bool.and_eq_true, bne_iff_ne, hsame]
  refine ⟨And.right, fun hs => ⟨?_, hs⟩⟩
  obtain ⟨j, hj, _⟩ := hs.2
  exact hf.order_of_present (hf.present hj)

/-! ## Cancelling some instances -/

theorem record_cancelOne (reason : String) {j : String}
    (h : ¬ (id = j ∧ (s.state id).isTerminal = false)) :
    (s.cancelOne reason j).run.record id = s.run.record id := by
  unfold cancelOne
  split
  · rfl
  · rename_i ho
    refine record_move_ne (fun hid => h ⟨hid, ?_⟩) .cancelled (some reason)
    rw [hid]
    simpa using ho

/-- Who is not cancelled keeps the record. -/
theorem record_cancelEach (ids : List String) (reason : String) (s : Scheduler)
    (h : ¬ (id ∈ ids ∧ (s.state id).isTerminal = false)) :
    (ids.foldl (fun s id => s.cancelOne reason id) s).run.record id = s.run.record id := by
  induction ids generalizing s with
  | nil => rfl
  | cons j ids ih =>
    have hone : ¬ (id = j ∧ (s.state id).isTerminal = false) :=
      fun hj => h ⟨hj.1 ▸ List.mem_cons_self, hj.2⟩
    have hstate : (s.cancelOne reason j).state id = s.state id :=
      (state_cancelOne s reason j id).trans (if_neg hone)
    rw [List.foldl_cons, ih, record_cancelOne reason hone]
    rw [hstate]
    exact fun hm => h ⟨List.mem_cons_of_mem _ hm.1, hm.2⟩

/-- A body after some instances were cancelled: it is told to stop if its instance is one of them
and had not ended. -/
def toldToStop (s : Scheduler) (ids : List String) (job : Job) : Job :=
  if job.id ∈ ids ∧ (s.state job.id).isTerminal = false then { job with cancelled := true }
  else job

theorem bodies_cancelOne (s : Scheduler) (reason id : String) :
    (s.cancelOne reason id).bodies = s.bodies.map (toldToStop s [id]) := by
  unfold cancelOne
  split
  · rename_i he
    refine (List.map_id'' (fun job => ?_) s.bodies).symm
    refine if_neg fun h => ?_
    rw [List.mem_singleton.1 h.1, he] at h
    cases h.2
  · rename_i ho
    rw [bodies_move]
    refine List.map_congr_left fun job _ => ?_
    by_cases hid : job.id = id
    · rw [if_pos hid, toldToStop, if_pos ⟨List.mem_singleton.2 hid, by simpa [hid] using ho⟩]
    · rw [if_neg hid, toldToStop, if_neg fun h => hid (List.mem_singleton.1 h.1)]

/-- Just the bodies of those that are cancelled are told to stop. -/
theorem bodies_cancelEach (ids : List String) (reason : String) (s : Scheduler) :
    (ids.foldl (fun s id => s.cancelOne reason id) s).bodies =
      s.bodies.map (toldToStop s ids) := by
  induction ids generalizing s with
  | nil => exact (List.map_id'' (fun job => if_neg fun h => nomatch h.1) s.bodies).symm
  | cons id ids ih =>
    rw [List.foldl_cons, ih, bodies_cancelOne, List.map_map]
    refine List.map_congr_left fun job _ => ?_
    show toldToStop (s.cancelOne reason id) ids (toldToStop s [id] job) =
      toldToStop s (id :: ids) job
    by_cases hone : job.id = id ∧ (s.state job.id).isTerminal = false
    · -- it is told at once, and telling it again changes nothing
      have htold : toldToStop s [id] job = { job with cancelled := true } :=
        if_pos ⟨List.mem_singleton.2 hone.1, hone.2⟩
      have hall : toldToStop s (id :: ids) job = { job with cancelled := true } :=
        if_pos ⟨hone.1 ▸ List.mem_cons_self, hone.2⟩
      rw [htold, hall, toldToStop, ite_self]
    · have hstate : (s.cancelOne reason id).state job.id = s.state job.id :=
        (state_cancelOne s reason id job.id).trans (if_neg hone)
      have hleft : toldToStop s [id] job = job :=
        if_neg fun h => hone ⟨List.mem_singleton.1 h.1, h.2⟩
      have hmem : (job.id ∈ ids ∧ (s.state job.id).isTerminal = false) ↔
          job.id ∈ id :: ids ∧ (s.state job.id).isTerminal = false := by
        rw [List.mem_cons, or_and_right, or_iff_right hone]
      rw [hleft, toldToStop, toldToStop, hstate]
      simp only [hmem]

/-! ## A failure -/

/-- The instance fails: its body has, or there is no release decision for it. -/
inductive Failure (s : Scheduler) (i : Instance) : Scheduler → Prop
  | body {report : BodyReport} {rest : List Event} (next : s.queue = .done i.id report :: rest)
      (was : s.state i.id = .running) (bad : report.status ≠ .succeeded)
      (unasked : report.status ≠ .cancelled) :
      Failure s i ({ s with queue := rest }.handle (.done i.id report))
  | undecided (going : s.halted = false) (was : s.state i.id ≠ .failed)
      (failed : (s.visit i.id).2.state i.id = .failed) : Failure s i (s.visit i.id).2

/-- Nothing has happened to the instances, to their bodies or to what they have published. -/
structure Still (s t : Scheduler) : Prop where
  stages : t.run.stages = s.run.stages
  graph : t.graph = s.graph
  failFast : t.failFast = s.failFast
  bodies : t.bodies = s.bodies
  outputs : ∀ id k, OwnKey id k → t.run.outputs.peek? id k = s.run.outputs.peek? id k

theorem Still.of_asks (ha : Asks s t) (hl : Leaves s t) : Still s t where
  stages := ha.stages
  graph := ha.graph
  failFast := ha.failFast
  bodies := hl.bodies
  outputs := fun _ _ hk => ha.outputs.peek? hk

theorem Step.failure (h : Failure s i t) : Step s t := by
  cases h with
  | body next => exact .take next
  | undecided going => exact .visit going i.id

theorem unfailed_move {st : State} {error : Option String} (hst : t.run.stages = s.run.stages)
    (ho : (s.state id).isTerminal = false) (hne : st ≠ .failed) :
    (t.move id st error).state id ≠ .failed := by
  rw [state_move (by rwa [state_congr hst]), if_pos rfl]
  exact hne

/-- Whoever asks for a gate does not fail. -/
theorem unfailed_requestGate (ho : (s.state i.id).isTerminal = false) :
    (s.requestGate i).state i.id ≠ .failed := by
  unfold requestGate
  split
  · exact unfailed_move rfl ho (by simp)
  · rename_i name _
    have hfacts := asks_releaseFacts s
    generalize s.releaseFacts = asked at hfacts ⊢
    obtain ⟨facts, v⟩ := asked
    dsimp only at hfacts ⊢
    generalize v.gates.request name v.run.id (some v.run.trigger) facts.toOption v.now = change
    have hstages : (({ v with gates := change.table }.deliver change.notices).write
        (.gate change.answer)).run.stages = s.run.stages :=
      ((leaves_told v change.table change.notices).stages).trans hfacts.stages
    generalize ({ v with gates := change.table }.deliver change.notices).write
      (.gate change.answer) = w at hstages ⊢
    split
    · exact unfailed_move hstages ho (by simp)
    · exact unfailed_move (t := { w with awaiting := putPair i.id change.answer.id w.awaiting })
        hstages ho (by simp)
    · exact unfailed_move hstages ho (by simp)

/-- The check of a release fails an instance after it has asked, and has moved nothing before. -/
theorem passRelease_failed (ho : (s.state i.id).isTerminal = false)
    (failed : (s.passRelease i).state i.id = .failed) : ∃ v text message, Asks s v ∧ Leaves s v ∧
      s.passRelease i = ((v.move i.id .failed (some text)).addError message).afterFailure i := by
  unfold passRelease at failed ⊢
  split at failed
  · rename_i hrel
    rw [if_pos hrel]
    have ha := asks_decide s
    have hl := leaves_decide s
    generalize s.decideRelease = asked at ha hl failed ⊢
    obtain ⟨answer, v⟩ := asked
    dsimp only at ha hl
    split at failed
    · rename_i hcase
      cases hcase
      have hopen : s.state i.id = .failed := (ha.state i.id).symm.trans (failed_of_abort failed)
      rw [hopen] at ho
      cases ho
    · rename_i hcase
      cases hcase
      exact ⟨v, _, _, ha, hl, rfl⟩
    · rename_i hcase
      cases hcase
      split at failed
      · exact absurd failed (unfailed_move ha.stages ho (by simp))
      · exact absurd failed (unfailed_requestGate (by rwa [ha.state]))
  · exact absurd failed (unfailed_requestGate ho)

/-- A look that finds no release decision moves nothing before the instance fails. -/
theorem visit_undecided (hi : s.graph.instance? i.id = some i) (was : s.state i.id ≠ .failed)
    (failed : (s.visit i.id).2.state i.id = .failed) : (s.state i.id).isTerminal = false ∧
      ∃ v text message, Asks s v ∧ Leaves s v ∧
        (s.visit i.id).2 = ((v.move i.id .failed (some text)).addError message).afterFailure i := by
  have hunlocks : Unlocks s i := unlocks_of_visit hi (by rw [failed]; exact was.symm)
    (by rw [failed]; simp) (by rw [failed]; simp)
  have ho : (s.state i.id).isTerminal = false :=
    State.not_isTerminal_of_isWaiting (isWaiting_of_was hunlocks.was)
  refine ⟨ho, ?_⟩
  rw [hunlocks.visit] at failed ⊢
  have ha := asks_conditionHolds s i
  have hl := leaves_conditionHolds s i
  unfold unlock at failed ⊢
  generalize s.conditionHolds i = asked at ha hl failed ⊢
  obtain ⟨_ | holds, v⟩ := asked
  · exact absurd ((ha.state i.id).symm.trans failed) was
  · dsimp only at ha hl
    cases holds
    · exact absurd failed (unfailed_move ha.stages ho (by simp))
    · obtain ⟨w, text, message, ha', hl', he⟩ := passRelease_failed (by rwa [ha.state]) failed
      exact ⟨w, text, message, ha.trans ha', hl.trans hl', he⟩

/-- Up to the failure nothing has happened, and after it those are cancelled that it takes along. -/
theorem Failure.eq (hi : s.graph.instance? i.id = some i) (h : Failure s i t) :
    (s.state i.id).isTerminal = false ∧ ∃ v text message, Still s v ∧
      t = ((v.move i.id .failed (some text)).addError message).afterFailure i := by
  cases h with
  | @body report rest next was bad unasked =>
    refine ⟨by rw [was]; rfl, ?_⟩
    rw [handle, complete_of_running (s := { s with queue := rest }) hi was]
    split
    · contradiction
    · contradiction
    · exact ⟨{ s with queue := rest, inFlight := s.inFlight.filter (· ≠ i.id) },
        errorOr report.error "stage failed", _, ⟨rfl, rfl, rfl, rfl, fun _ _ _ => rfl⟩, rfl⟩
  | undecided going was failed =>
    obtain ⟨ho, v, text, message, ha, hl, he⟩ := visit_undecided hi was failed
    exact ⟨ho, v, text, message, .of_asks ha hl, he⟩

/-! ## Whom a failure takes along -/

theorem takenAlong_of_strict (lenient : s.failFast = false) (strict : i.template.failFast = true) :
    s.takenAlong i = s.graph.siblings i.id := by
  rw [takenAlong, lenient, strict]
  rfl

section

variable (hi : s.graph.instance? i.id = some i) (lenient : s.failFast = false)
  (strict : i.template.failFast = true) (h : Failure s i t)

include hi lenient strict h

/-- The failure is one of an instance that had not ended, and then its siblings are cancelled. -/
theorem Failure.cancels : (s.state i.id).isTerminal = false ∧ ∃ w reason,
    (∀ j, w.state j = if j = i.id then .failed else s.state j) ∧
    (∀ j, j ≠ i.id → w.run.record j = s.run.record j) ∧ w.bodies = s.bodies ∧
    (∀ j k, OwnKey j k → w.run.outputs.peek? j k = s.run.outputs.peek? j k) ∧
    t = (s.graph.siblings i.id).foldl (fun s id => s.cancelOne reason id) w := by
  obtain ⟨ho, v, text, message, hstill, he⟩ := h.eq hi
  obtain ⟨reason, hafter⟩ := afterFailure_eq ((v.move i.id .failed (some text)).addError message) i
  rw [takenAlong_fail, takenAlong_congr hstill.graph hstill.failFast,
    takenAlong_of_strict lenient strict, ← he] at hafter
  have hopen : (v.state i.id).isTerminal = false := by rwa [state_congr hstill.stages]
  refine ⟨ho, (v.move i.id .failed (some text)).addError message, reason, fun j => ?_,
    fun j hj => ?_, ?_, fun j k hk => ?_, hafter⟩
  · rw [← state_congr (s := s) (t := v) hstill.stages j]
    exact state_move hopen j
  · refine (record_move_ne hj .failed (some text)).trans ?_
    rw [Run.record, Run.record, hstill.stages]
  · exact (bodies_move v i.id .failed (some text)).trans hstill.bodies
  · rw [← hstill.outputs j k hk]
    exact peek?_congr (published_of_desk (desk_move v i.id .failed (some text))) j k

/-- Nothing more is shown of any instance, and nothing less. -/
theorem Failure.peek? {j k : String} (hk : OwnKey j k) :
    t.run.outputs.peek? j k = s.run.outputs.peek? j k := by
  obtain ⟨_, w, reason, _, _, _, hpeek, he⟩ := h.cancels hi lenient strict
  rw [he, peek?_congr (published_of_desk (desk_cancelEach _ _ w)), hpeek j k hk]

variable (hf : Framed s)

include hf

theorem Failure.state (j : String) : t.state j =
    if j = i.id then .failed
    else if Sibling s i j ∧ (s.state j).isTerminal = false then .cancelled else s.state j := by
  obtain ⟨_, w, reason, hw, _, _, _, he⟩ := h.cancels hi lenient strict
  rw [he, state_cancelEach]
  simp only [mem_siblings_iff hf hi, hw]
  by_cases hj : j = i.id
  · rw [if_pos hj, if_pos hj, if_neg fun hs => hs.1.1 hj]
  · rw [if_neg hj, if_neg hj]

/-- Who is no sibling of the instance, or has ended, keeps the record. -/
theorem Failure.record {j : String} (hj : j ≠ i.id)
    (hnot : ¬ (Sibling s i j ∧ (s.state j).isTerminal = false)) :
    t.run.record j = s.run.record j := by
  obtain ⟨_, w, reason, hw, hrecord, _, _, he⟩ := h.cancels hi lenient strict
  rw [he, record_cancelEach, hrecord j hj]
  rwa [mem_siblings_iff hf hi, hw, if_neg hj]

/-- Just the bodies of the siblings that had not ended are told to stop. -/
theorem Failure.bodies : t.bodies = s.bodies.map fun job =>
    if Sibling s i job.id ∧ (s.state job.id).isTerminal = false then { job with cancelled := true }
    else job := by
  obtain ⟨_, w, reason, hw, _, hbodies, _, he⟩ := h.cancels hi lenient strict
  rw [he, bodies_cancelEach, hbodies]
  refine List.map_congr_left fun job _ => ?_
  have hsame : (job.id ∈ s.graph.siblings i.id ∧ (w.state job.id).isTerminal = false) ↔
      Sibling s i job.id ∧ (s.state job.id).isTerminal = false := by
    rw [mem_siblings_iff hf hi]
    refine and_congr_right fun hs => ?_
    rw [hw, if_neg hs.1]
  rw [toldToStop]
  simp only [hsame]

end

/-! ## What hangs on whom -/

/-- The first instance depends on the second one, directly or through others, and neither it nor any
of these had succeeded before the run began. -/
def HangsOn (s₀ : Scheduler) : String → String → Prop :=
  Relation.TransGen fun id d => d ∈ s₀.graph.dependencies id ∧ s₀.state id = .pending

/-- When the successes that a run begins with have all that they depend on among them, whoever
depends on an instance that has not succeeded hangs on it. -/
theorem hangsOn_of_dependsOn (h₀ : Poised s₀) (hr : Rooted s₀) (hs : s₀.state sib ≠ .succeeded)
    (h : s₀.graph.DependsOn id sib) : HangsOn s₀ id sib := by
  have hone : ∀ {id d}, d ∈ s₀.graph.dependencies id → s₀.state d ≠ .succeeded →
      s₀.state id = .pending := by
    intro id d hd hne
    refine (h₀.state id).resolve_right fun hid => ?_
    obtain ⟨i, rfl, hi⟩ := h₀.framed.instance_of_unpending (by rw [hid]; simp)
    exact hne (hr i hi (by rw [hid]; rfl) d hd)
  suffices hboth : HangsOn s₀ id sib ∧ s₀.state id = .pending from hboth.1
  induction h using Relation.TransGen.head_induction_on with
  | single hd =>
    have hp := hone hd hs
    exact ⟨.single ⟨hd, hp⟩, hp⟩
  | head hd _ ih =>
    have hp := hone hd (by rw [ih.2]; simp)
    exact ⟨.head ⟨hd, hp⟩ ih.1, hp⟩

/-- An instance that had not succeeded before the run began, and that was let go on, started or
failed, has all that it depends on succeeded. -/
def Earned (s₀ s : Scheduler) : Prop :=
  ∀ id, s₀.state id = .pending →
    ((s.state id).isCleared = true ∨ s.state id = .failed ∨ id ∈ s.started) →
    ∀ d ∈ s.graph.dependencies id, s.state d = .succeeded

theorem Poised.earned (h : Poised s) : Earned s s := by
  intro id hp hcome
  rw [hp, started, h.effects] at hcome
  rcases hcome with hc | hc | hc <;> cases hc

theorem Step.earned (hf : Framed s) (hk : s.gates.Keyed) (h : Earned s₀ s) (hstep : Step s t) :
    Earned s₀ t := by
  intro id hp hcome d hd
  rw [show t.graph = s.graph from (hstep.leads.steady hf hk).graph] at hd
  have hkept : s.state d = .succeeded → t.state d = .succeeded := fun hs =>
    ((hstep.forward hf hk d).2 (by rw [hs]; rfl)).trans hs
  refine hkept ?_
  by_cases hbefore : (s.state id).isCleared = true ∨ s.state id = .failed ∨ id ∈ s.started
  · exact h id hp hbefore d hd
  · simp only [not_or, Bool.not_eq_true] at hbefore
    obtain ⟨hcleared, hfailed, hstarted⟩ := hbefore
    -- a body is started of an instance that was let go on before
    have hcome' : (t.state id).isCleared = true ∨ t.state id = .failed := by
      rcases hcome with hc | hc | hc
      · exact Or.inl hc
      · exact Or.inr hc
      · rcases hstep.started hf hk with he | ⟨j, he, hready, _⟩
        · exact absurd (he ▸ hc) hstarted
        · rw [he] at hc
          rcases List.mem_append.1 hc with hc | hc
          · exact absurd hc hstarted
          · rw [List.mem_singleton.1 hc, hready] at hcleared
            cases hcleared
    have hne : t.state id ≠ s.state id := by
      intro hsame
      rw [hsame] at hcome'
      rcases hcome' with hc | hc
      · rw [hcleared] at hc
        cases hc
      · exact hfailed hc
    have hunpending : t.state id ≠ .pending := by
      intro hpending
      rw [hpending] at hcome'
      rcases hcome' with hc | hc <;> cases hc
    obtain ⟨i, rfl, hi⟩ := (hstep.framed hf hk).1.instance_of_unpending hunpending
    rw [show t.graph = s.graph from (hstep.leads.steady hf hk).graph] at hi
    obtain ⟨_, _, hunlocks⟩ := hstep.unlocks hf hi hcleared hne hcome'
    exact succeeded_of_satisfied hunlocks.satisfied d hd

theorem Leads.earned (h₀ : Poised s₀) (h : Leads s₀ s) : Earned s₀ s := by
  induction h with
  | refl => exact h₀.earned
  | tail hlead hstep ih =>
    obtain ⟨hf, hk⟩ := Leads.framed h₀.framed h₀.keyed hlead
    exact hstep.earned hf hk ih

/-- Nothing comes of an instance that hangs on a lost one. -/
theorem HangsOn.hopeless (h₀ : Poised s₀) (h : Leads s₀ s) (lost : (s.state sib).isLost = true)
    (hangs : HangsOn s₀ id sib) :
    id ∉ s.started ∧ (s.state id).isCleared = false ∧ s.state id ≠ .failed := by
  have hearned := h.earned h₀
  have hgraph : s.graph = s₀.graph := (h.steady h₀.framed h₀.keyed).graph
  have hone : ∀ {id d}, d ∈ s₀.graph.dependencies id → s₀.state id = .pending →
      s.state d ≠ .succeeded → id ∉ s.started ∧ (s.state id).isCleared = false ∧
        s.state id ≠ .failed := by
    intro id d hd hp hne
    have hcome : ¬ ((s.state id).isCleared = true ∨ s.state id = .failed ∨ id ∈ s.started) :=
      fun hc => hne (hearned id hp hc d (hgraph ▸ hd))
    simp only [not_or, Bool.not_eq_true] at hcome
    exact ⟨hcome.2.2, hcome.1, hcome.2.1⟩
  induction hangs using Relation.TransGen.head_induction_on with
  | single hd =>
    refine hone hd.1 hd.2 fun hs => ?_
    rw [hs] at lost
    cases lost
  | head hd _ ih =>
    refine hone hd.1 hd.2 fun hs => ?_
    have hc := ih.2.1
    rw [hs] at hc
    cases hc

theorem status_of_lost {g : StageGraph} {states : String → State} {d : String}
    (hd : d ∈ g.dependencies id) (lost : (states d).isLost = true) :
    g.dependencyStatus id states = .lost := if_pos (List.any_eq_true.2 ⟨d, hd, lost⟩)

/-- An instance that hangs on a lost one is skipped or cancelled once it has ended. -/
theorem HangsOn.ended (h₀ : Poised s₀) (h : Leads s₀ s) (lost : (s.state sib).isLost = true)
    (hangs : HangsOn s₀ id sib) (he : (s.state id).isTerminal = true) :
    s.state id = .skipped ∨ s.state id = .cancelled := by
  obtain ⟨_, hcleared, hfailed⟩ := hangs.hopeless h₀ h lost
  cases hs : s.state id with
  | skipped => exact Or.inl rfl
  | cancelled => exact Or.inr rfl
  | failed => exact absurd hs hfailed
  | succeeded | ready | running => rw [hs] at hcleared; cases hcleared
  | pending | blocked => rw [hs] at he; cases he

/-- Where there is nothing left to do, it has ended. -/
theorem HangsOn.settled (h₀ : Poised s₀) (h : Leads s₀ s) (settled : Settled s)
    (lost : (s.state sib).isLost = true) (hangs : HangsOn s₀ id sib) (hm : id ∈ s.graph.order) :
    s.state id = .skipped ∨ s.state id = .cancelled := by
  obtain ⟨hf, _⟩ := h.framed h₀.framed h₀.keyed
  have hgraph : s.graph = s₀.graph := (h.steady h₀.framed h₀.keyed).graph
  have hone : ∀ {id d}, id ∈ s.graph.order → HangsOn s₀ id sib → d ∈ s₀.graph.dependencies id →
      (s.state d).isLost = true → s.state id = .skipped ∨ s.state id = .cancelled := by
    intro id d hm hangs hd hlost
    obtain ⟨_, hcleared, _⟩ := hangs.hopeless h₀ h lost
    obtain ⟨i, hi⟩ := exists_getPair?_of_key_mem (hf.sound.order_perm.mem_iff.1 hm)
    obtain rfl := hf.id_eq hi
    have hidle := settled.idle i.id hm i hi
    refine hangs.ended h₀ h lost ?_
    cases hs : s.state i.id with
    | pending => exact absurd hs hidle.unpending
    | blocked =>
      have hwaiting := hidle.blocked hs
      rw [status_of_lost (hgraph ▸ hd) hlost] at hwaiting
      cases hwaiting
    | ready | running => rw [hs] at hcleared; cases hcleared
    | succeeded | failed | skipped | cancelled => rfl
  -- from the lost one on, each waits for one that is lost before it
  induction hangs using Relation.TransGen.head_induction_on with
  | single hd => exact hone hm (.single hd) hd.1 lost
  | @head id c hd hrest ih =>
    have hc : c ∈ s.graph.order := hf.sound.order_perm.mem_iff.2 (by
      rw [hgraph]
      exact h₀.framed.sound.dependencies_mem hd.1)
    refine hone hm (.head hd hrest) hd.1 ?_
    rcases ih hc with hs | hs <;> rw [hs] <;> rfl

/-- What has ended keeps its record, and its body is not started any more. -/
theorem Leads.record_of_ended (hf : Framed s) (hk : s.gates.Keyed) (h : Leads s t)
    (he : (s.state id).isTerminal = true) :
    t.run.record id = s.run.record id ∧ (id ∈ t.started ↔ id ∈ s.started) := by
  induction h with
  | refl => exact ⟨rfl, Iff.rfl⟩
  | @tail u v hlead hstep ih =>
    obtain ⟨hfu, hku⟩ := Leads.framed hf hk hlead
    have hstate : u.state id = s.state id := congrArg StageRecord.state ih.1
    have hended : (u.state id).isTerminal = true := hstate ▸ he
    refine ⟨(hstep.record hfu hku hended).trans ih.1, Iff.trans ?_ ih.2⟩
    rcases hstep.started hfu hku with hsame | ⟨j, hmore, hready, _⟩
    · rw [hsame]
    · have hne : id ≠ j := by
        rintro rfl
        rw [hready] at hended
        cases hended
      simp [hmore, hne]

theorem HangsOn.advance (h₀ : Poised s₀) (h : Leads s₀ s) (lost : (s.state sib).isLost = true)
    (hangs : HangsOn s₀ id sib) (hm : id ∈ s.graph.order) (whole : s.advance.crash = none) :
    s.advance.state id = .skipped ∨ s.advance.state id = .cancelled := by
  obtain ⟨hf, hk⟩ := h.framed h₀.framed h₀.keyed
  have hadvance : Leads s₀ s.advance := Leads.trans h (leads_advance s)
  have hgraph : s.advance.graph = s.graph := ((leads_advance s).steady hf hk).graph
  have hkept : (s.advance.state sib).isLost = true := by
    have hrecord := ((leads_advance s).record_of_ended hf hk (State.isTerminal_of_isLost lost)).1
    rwa [show s.advance.state sib = s.state sib from congrArg StageRecord.state hrecord]
  by_cases hstop : s.advance.fatal = true ∨ s.advance.superseded = true
  · exact hangs.ended h₀ hadvance hkept (hadvance.allEnded h₀ hstop id (hgraph ▸ hm))
  · simp only [not_or, Bool.not_eq_true] at hstop
    have hgoing : s.advance.halted = false := by simp [halted, hstop.1, whole]
    exact hangs.settled h₀ hadvance (settled_advance hf hk hgoing hstop.2) hkept (hgraph ▸ hm)

/-! ## The law -/

/-- When an instance fails because its body does or because there is no release decision for it, and
fail-fast holds for its stage and not for the run, just its siblings that have not ended are
cancelled; their bodies are told to stop and no others, and all other instances keep what was
recorded and shown of them, the tag of the run, which is no output of one, apart. After that nothing
is started or recorded of these siblings and their reports come too late; whoever hangs on one of
them is never started, and is skipped or cancelled in the end, at the latest when the scheduler has
next gone as far as it can. -/
theorem a_failure_takes_just_its_siblings_along (h₀ : Poised s₀) (h : Leads s₀ s)
    (hi : s.graph.instance? i.id = some i) (lenient : s.failFast = false)
    (strict : i.template.failFast = true) (fails : Failure s i t) :
    (∀ id, t.state id =
      if id = i.id then .failed
      else if Sibling s i id ∧ (s.state id).isTerminal = false then .cancelled else s.state id) ∧
    (t.bodies = s.bodies.map fun job =>
      if Sibling s i job.id ∧ (s.state job.id).isTerminal = false
      then { job with cancelled := true } else job) ∧
    (∀ id, id ≠ i.id → ¬ (Sibling s i id ∧ (s.state id).isTerminal = false) →
      t.run.record id = s.run.record id) ∧
    (∀ id k, OwnKey id k → t.run.outputs.peek? id k = s.run.outputs.peek? id k) ∧
    ∀ sib, Sibling s i sib → (s.state sib).isTerminal = false →
      (∀ u, Leads t u →
        (u.run.record sib = t.run.record sib ∧ (sib ∈ u.started ↔ sib ∈ t.started) ∧
          ∀ report rest, u.queue = .done sib report :: rest →
            ({ u with queue := rest }.handle (.done sib report)).run = u.run) ∧
        ∀ id ∈ s₀.graph.order, HangsOn s₀ id sib → id ∉ u.started ∧
          (u.run.finished = true → u.state id = .skipped ∨ u.state id = .cancelled) ∧
          (u.advance.crash = none →
            u.advance.state id = .skipped ∨ u.advance.state id = .cancelled)) ∧
      (Rooted s₀ → ∀ id, s₀.graph.DependsOn id sib → HangsOn s₀ id sib) := by
  obtain ⟨hf, hk⟩ := h.framed h₀.framed h₀.keyed
  have hstep : Step s t := Step.failure fails
  have hstate := fails.state hi lenient strict hf
  refine ⟨hstate, fails.bodies hi lenient strict hf, fun id => fails.record hi lenient strict hf,
    fun id k => fails.peek? hi lenient strict,
    fun sib hsib hopen => ⟨fun u hu => ?_, fun hr id => ?_⟩⟩
  · obtain ⟨hft, hkt⟩ := hstep.framed hf hk
    have hlead : Leads s₀ u := (h.snoc hstep).trans hu
    obtain ⟨hfu, hku⟩ := hlead.framed h₀.framed h₀.keyed
    have hcancelled : t.state sib = .cancelled := by
      rw [hstate, if_neg hsib.1, if_pos ⟨hsib, hopen⟩]
    have hended : (t.state sib).isTerminal = true := by rw [hcancelled]; rfl
    obtain ⟨hrecord, hstarted⟩ := hu.record_of_ended hft hkt hended
    have hgone : u.state sib = .cancelled :=
      (congrArg StageRecord.state hrecord).trans hcancelled
    refine ⟨⟨hrecord, hstarted, fun report rest _ => ?_⟩, fun id hm hangs => ?_⟩
    · rw [handle, complete_of_not_running (s := { u with queue := rest })
        (fun hr => by cases hgone.symm.trans hr)]
    · have hlost : (u.state sib).isLost = true := by rw [hgone]; rfl
      have hgraph : u.graph = s₀.graph := (hlead.steady h₀.framed h₀.keyed).graph
      refine ⟨(hangs.hopeless h₀ hlead hlost).1, fun hend => ?_,
        hangs.advance h₀ hlead hlost (hgraph ▸ hm)⟩
      exact hangs.ended h₀ hlead hlost
        (hfu.ended_of_finished hend (hgraph ▸ h₀.framed.sound.order_perm.mem_iff.1 hm))
  · refine hangsOn_of_dependsOn h₀ hr fun hs => ?_
    have hbefore : (s₀.state sib).isTerminal = true := by rw [hs]; rfl
    have hkept := (h.record_of_ended h₀.framed h₀.keyed hbefore).1
    have hended : (s.state sib).isTerminal = true := by
      rw [show s.state sib = s₀.state sib from congrArg StageRecord.state hkept, hs]
      rfl
    rw [hopen] at hended
    cases hended

/-! ## Tests on several systems -/

/-- A workflow that tests on each of the systems, deploys, and gives notice. -/
def testWorkflow (systems : List String) : Workflow where
  name := "ci"
  stages := [
    { name := "test", failFast := true
      matrix := some { dimensions := [("os", systems.map Value.text)] } },
    { name := "deploy", needs := ["test"] },
    { name := "notify", needs := ["deploy"] }]

/-- The scheduler of a run of it on two systems. -/
def testStart : Scheduler :=
  match ({} : Orchestrator).prepareStart (testWorkflow ["linux", "mac"]) {} none "r1" 0 0 with
  | (_, .ready s _) => s
  | _ => default

/-- Both tests run, and the one on Linux fails. -/
def testBroken : Scheduler := (testStart.begin.endBody "test[os=linux]" (.fails "broken" none)).2

theorem fresh_testStart : Fresh testStart := by
  obtain ⟨_, _, ready⟩ : ∃ o group, ({} : Orchestrator).prepareStart
      (testWorkflow ["linux", "mac"]) {} none "r1" 0 0 = (o, .ready testStart group) :=
    Prepared.exists_ready (by decide +kernel)
  exact Orchestrator.fresh_prepareStart ready

theorem leads_testBroken : Leads testStart testBroken :=
  (leads_begin _).trans (leads_endBody _ _ _)

/-- A body that has just failed fails its instance in the next turn. -/
theorem failure_endBody (script : BodyScript) (hid : i.id = id) (idle : s.queue.isEmpty = true)
    (reported : (s.endBody id script).1.isSome = true)
    (bad : ∀ report ∈ (s.endBody id script).1,
      report.status ≠ .succeeded ∧ report.status ≠ .cancelled)
    (was : (s.endBody id script).2.state id = .running)
    (going : (s.endBody id script).2.ended = false) :
    ∃ t, Failure (s.endBody id script).2 i t ∧ (s.endBody id script).2.turn = t.proceed := by
  subst hid
  obtain ⟨report, hreport⟩ := Option.isSome_iff_exists.1 reported
  obtain ⟨hbad, hunasked⟩ := bad report hreport
  have hqueue : (s.endBody i.id script).2.queue = [.done i.id report] := by
    rw [queue_endBody hreport, List.isEmpty_iff.1 idle, List.nil_append]
  refine ⟨_, .body hqueue was hbad hunasked, ?_⟩
  rw [turn, going, hqueue]
  rfl

/-- The test on the Mac is cancelled and told to stop, and what needs the tests is not started. -/
theorem the_failing_test_takes_the_other_one_along : ∃ i t,
    testBroken.graph.instance? i.id = some i ∧ i.template.failFast = true ∧
      testBroken.failFast = false ∧ Failure testBroken i t ∧
      t.state "test[os=mac]" = .cancelled ∧
      ∀ u, Leads t u → "deploy" ∉ u.started ∧ "notify" ∉ u.started := by
  obtain ⟨i, hi, hid, hstrict, hmac⟩ : ∃ i, testBroken.graph.instance? "test[os=linux]" = some i ∧
      i.id = "test[os=linux]" ∧ i.template.failFast = true ∧
      Sibling testBroken i "test[os=mac]" :=
    ⟨_, (Option.some_get (by decide +kernel)).symm, by decide +kernel, by decide +kernel,
      by decide +kernel⟩
  have hlenient : testBroken.failFast = false := by decide +kernel
  have hopen : (testBroken.state "test[os=mac]").isTerminal = false := by decide +kernel
  obtain ⟨t, hfails, _⟩ := failure_endBody (s := testStart.begin) (.fails "broken" none) hid
    (by decide +kernel) (by decide +kernel) (by decide +kernel)
    (by decide +kernel) (by decide +kernel)
  rw [← hid] at hi
  obtain ⟨hstate, _, _, _, hothers⟩ := a_failure_takes_just_its_siblings_along
    fresh_testStart.toPoised leads_testBroken hi hlenient hstrict hfails
  have hdeploy : HangsOn testStart "deploy" "test[os=mac]" :=
    .single ⟨by decide +kernel, by decide +kernel⟩
  have hnotify : HangsOn testStart "notify" "test[os=mac]" :=
    .head ⟨by decide +kernel, by decide +kernel⟩ hdeploy
  refine ⟨i, t, hi, hstrict, hlenient, hfails, ?_, fun u hu => ?_⟩
  · rw [hstate, if_neg hmac.1, if_pos ⟨hmac, hopen⟩]
  · obtain ⟨_, hlost⟩ := (hothers _ hmac hopen).1 u hu
    exact ⟨(hlost "deploy" (by decide +kernel) hdeploy).1,
      (hlost "notify" (by decide +kernel) hnotify).1⟩

/-! ### Restored successes -/

/-- What the store has after a run on one system that deploys and cannot give notice. -/
def testStored : RunStore :=
  match ({ store := some {} } : Orchestrator).prepareStart (testWorkflow ["linux"]) {} none "r1" 0 0
    with
  | (o, .ready s _) =>
    let tested := (s.begin.endBody "test[os=linux]" .default).2.turn
    let deployed := (tested.endBody "deploy" .default).2.turn
    (deployed.endBody "notify" (.fails "no mail server" none)).2.turn.writes.foldl
      (fun st w => st.apply 0 w) (o.store.getD {})
  | _ => {}

/-- The run is taken up with tests on two more systems. -/
def testAgain : Scheduler :=
  match ({ store := some testStored } : Orchestrator).prepareResume
    (testWorkflow ["linux", "mac", "win"]) none "r1" 0 5 with
  | (_, .ready s _) => s
  | _ => default

/-- The test on the Mac fails. -/
def testBrokenAgain : Scheduler :=
  (testAgain.begin.endBody "test[os=mac]" (.fails "broken" none)).2

/-- A success that was put back stays, although the deployment depends on a test that is cancelled
with the other one; and the notice, which needs the deployment, is given. -/
theorem a_deployment_outlives_the_tests_that_were_added :
    (∃ o' group, ({ store := some testStored } : Orchestrator).prepareResume
      (testWorkflow ["linux", "mac", "win"]) none "r1" 0 5 = (o', .ready testAgain group)) ∧
    Leads testAgain testBrokenAgain ∧ testBrokenAgain.failFast = false ∧
    ∃ i t, testBrokenAgain.graph.instance? i.id = some i ∧ i.template.failFast = true ∧
      Failure testBrokenAgain i t ∧ Sibling testBrokenAgain i "test[os=win]" ∧
      t.state "test[os=win]" = .cancelled ∧
      "test[os=win]" ∈ testBrokenAgain.graph.dependencies "deploy" ∧
      ∃ u, Leads t u ∧ u.run.finished = true ∧ u.state "deploy" = .succeeded ∧
        "notify" ∈ u.started ∧ u.state "notify" = .succeeded := by
  obtain ⟨o', group, ready⟩ : ∃ o' group,
      ({ store := some testStored } : Orchestrator).prepareResume
        (testWorkflow ["linux", "mac", "win"]) none "r1" 0 5 = (o', .ready testAgain group) :=
    Prepared.exists_ready (by decide +kernel)
  have h₀ : Poised testAgain := Orchestrator.poised_prepareResume ready
  have hlead : Leads testAgain testBrokenAgain := (leads_begin _).trans (leads_endBody _ _ _)
  have hlenient : testBrokenAgain.failFast = false := by decide +kernel
  have hopen : (testBrokenAgain.state "test[os=win]").isTerminal = false := by decide +kernel
  obtain ⟨i, hi, hid, hstrict, hwin⟩ :
      ∃ i, testBrokenAgain.graph.instance? "test[os=mac]" = some i ∧ i.id = "test[os=mac]" ∧
        i.template.failFast = true ∧ Sibling testBrokenAgain i "test[os=win]" :=
    ⟨_, (Option.some_get (by decide +kernel)).symm, by decide +kernel, by decide +kernel,
      by decide +kernel⟩
  obtain ⟨t, hfails, hturn⟩ := failure_endBody (s := testAgain.begin) (.fails "broken" none) hid
    (by decide +kernel) (by decide +kernel) (by decide +kernel)
    (by decide +kernel) (by decide +kernel)
  rw [← hid] at hi
  have hcancelled : t.state "test[os=win]" = .cancelled := by
    rw [hfails.state hi hlenient hstrict (hlead.framed h₀.framed h₀.keyed).1, if_neg hwin.1,
      if_pos ⟨hwin, hopen⟩]
  have hends : Leads t (testBrokenAgain.turn.endBody "notify" .default).2.turn := by
    rw [testBrokenAgain, hturn]
    exact ((goes_proceed t).leads.trans (leads_endBody _ _ _)).trans (leads_turn _)
  exact ⟨⟨o', group, ready⟩, hlead, hlenient, i, t, hi, hstrict, hfails, hwin, hcancelled,
    by decide +kernel, _, hends, by decide +kernel, by decide +kernel, by decide +kernel,
    by decide +kernel⟩

end GatedPipeline.Scheduler
