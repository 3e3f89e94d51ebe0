-- Whose step it is. A step moves the instance that it is about. Any other
-- instance it only cancels, when the run is stopped or when a failure takes
-- others along.
import GatedPipeline.Proofs.Run.Decision
import GatedPipeline.Proofs.Run.Stoppage
namespace GatedPipeline.Scheduler

variable {s₀ s t u v e : Scheduler} {id : String} {i : Instance}

/-! ## Who is taken along -/

/-- The instances that the failure of an instance takes along, if they have not ended: all of them
with fail-fast on the run, its siblings with fail-fast on its stage. -/
def takenAlong (s : Scheduler) (i : Instance) : List String :=
  if s.failFast then s.graph.order
  else if i.template.failFast then s.graph.siblings i.id
  else []

theorem afterFailure_eq (s : Scheduler) (i : Instance) : ∃ reason,
    s.afterFailure i = (s.takenAlong i).foldl (fun s id => s.cancelOne reason id) s := by
  unfold afterFailure takenAlong
  split
  · exact ⟨_, rfl⟩
  · split
    · exact ⟨_, rfl⟩
    · exact ⟨"", rfl⟩

theorem state_afterFailure (s : Scheduler) (i : Instance) (j : String) :
    (s.afterFailure i).state j =
      if j ∈ s.takenAlong i ∧ (s.state j).isTerminal = false then .cancelled else s.state j := by
  obtain ⟨reason, he⟩ := afterFailure_eq s i
  rw [he, state_cancelEach]

theorem takenAlong_congr (hg : t.graph = s.graph) (hs : t.failFast = s.failFast) (i : Instance) :
    t.takenAlong i = s.takenAlong i := by
  rw [takenAlong, takenAlong, hg, hs]

theorem takenAlong_fail (s : Scheduler) (i : Instance) (text : Option String) (message : String) :
    ((s.move i.id .failed text).addError message).takenAlong i = s.takenAlong i :=
  takenAlong_congr (graph_move s i.id .failed text) (failFast_move s i.id .failed text) i

/-- Only the instance itself is moved by a move. -/
theorem record_move_ne {j : String} (hj : j ≠ id) (st : State) (error : Option String) :
    (s.move id st error).run.record j = s.run.record j := by
  by_cases ho : (s.state id).isTerminal = true
  · have hrefused : s.move id st error =
        { s with crash := some (.alreadyEnded id (s.run.record id).state st) } := if_pos ho
    rw [hrefused]
  · rw [move_of_open (by simpa using ho)]
    simp only [Run.record, getPair?_putPair, if_neg hj]

theorem state_move_ne {j : String} (hj : j ≠ id) (st : State) (error : Option String) :
    (s.move id st error).state j = s.state j :=
  congrArg StageRecord.state (record_move_ne hj st error)

/-! ## Who is swept away -/

/-- Why an instance is cancelled by a step that is not about it. -/
inductive Sweeps (s t : Scheduler) (id : String) : Prop
  | aborted (aborted : t.fatal = true)
  | superseded (superseded : t.superseded = true)
  | failed {i : Instance} (known : s.graph.instance? i.id = some i)
      (was : (s.state i.id).isTerminal = false) (failed : t.state i.id = .failed)
      (taken : id ∈ s.takenAlong i)

/-- The instance is cancelled by a step that is not about it. -/
structure Swept (s t : Scheduler) (id : String) : Prop where
  unended : (s.state id).isTerminal = false
  cancelled : t.state id = .cancelled
  cause : Sweeps s t id

/-- A step leaves an instance where it is, or sweeps it away. -/
def Spares (s t : Scheduler) (id : String) : Prop := t.state id = s.state id ∨ Swept s t id

/-- What changed before without moving an instance makes no difference. -/
theorem Spares.before (h : Spares u t id) (hst : u.run.stages = s.run.stages)
    (hg : u.graph = s.graph) (hs : u.failFast = s.failFast) : Spares s t id := by
  have hstate := state_congr (s := s) (t := u) hst
  rcases h with hsame | ⟨unended, cancelled, cause⟩
  · exact Or.inl (hsame.trans (hstate id))
  · refine Or.inr ⟨hstate id ▸ unended, cancelled, ?_⟩
    cases cause with
    | aborted aborted => exact .aborted aborted
    | superseded superseded => exact .superseded superseded
    | @failed i known was failed taken =>
      exact .failed (hg ▸ known) (hstate i.id ▸ was) failed (takenAlong_congr hg hs i ▸ taken)

theorem Asks.spares (h : Asks s u) (h' : Spares u t id) : Spares s t id :=
  h'.before h.stages h.graph h.failFast

theorem spares_of_same (h : t.run.stages = s.run.stages) : Spares s t id :=
  Or.inl (state_congr h id)

theorem spares_move {j : String} (hj : id ≠ j) (st : State) (error : Option String) :
    Spares s (s.move j st error) id := Or.inl (state_move_ne hj st error)

/-- Cancelling every instance sweeps them away, if there is a cause for it. -/
theorem spares_cancelAll {reason : String} (cause : Sweeps s (s.cancelAll reason) id) :
    Spares s (s.cancelAll reason) id := by
  have hstate := state_cancelEach s.graph.order reason s id
  by_cases hopen : id ∈ s.graph.order ∧ (s.state id).isTerminal = false
  · exact Or.inr ⟨hopen.2, hstate.trans (if_pos hopen), cause⟩
  · exact Or.inl (hstate.trans (if_neg hopen))

theorem fatal_abort (s : Scheduler) (error : String) : (s.abort error).fatal = true :=
  congrArg Prod.fst (flags_abort s error)

theorem spares_abort (s : Scheduler) (error : String) (id : String) :
    Spares s (s.abort error) id := by
  have hspares : Spares ({ s with fatal := true }.addError error) (s.abort error) id :=
    spares_cancelAll (.aborted (fatal_abort s error))
  exact hspares.before rfl rfl rfl

theorem spares_obeyCancel (s : Scheduler) (id : String) : Spares s s.obeyCancel id := by
  have hspares : ∀ text reason, Spares ({ s with superseded := true }.addError text)
      (({ s with superseded := true }.addError text).cancelAll reason) id := fun text reason =>
    spares_cancelAll (.superseded (superseded_of_flags (flags_cancelEach _ _ _)))
  exact (hspares _ _).before rfl rfl rfl

/-- A breach of contract aborts the run, and that sweeps away all others. -/
theorem spares_breach {j : String} (hid : id ≠ j) (text : Option String) (error : String) :
    Spares s ((s.move j .failed text).abort error) id := by
  have hsame : (s.move j .failed text).state id = s.state id := state_move_ne hid .failed text
  rcases spares_abort (s.move j .failed text) error id with habort | ⟨unended, cancelled, _⟩
  · exact Or.inl (habort.trans hsame)
  · exact Or.inr ⟨hsame ▸ unended, cancelled, .aborted (fatal_abort _ error)⟩

/-- A failure sweeps away whom it takes along. -/
theorem spares_fail (hi : s.graph.instance? i.id = some i)
    (ho : (s.state i.id).isTerminal = false) (hid : id ≠ i.id) (text : Option String)
    (message : String) :
    Spares s (((s.move i.id .failed text).addError message).afterFailure i) id := by
  have hmoved : ∀ j, ((s.move i.id .failed text).addError message).state j =
      if j = i.id then .failed else s.state j := state_move ho
  have hafter := state_afterFailure ((s.move i.id .failed text).addError message) i
  simp only [takenAlong_fail, hmoved] at hafter
  have hfailed := hafter i.id
  rw [if_pos rfl, if_neg (by simp [State.isTerminal])] at hfailed
  have hstate := hafter id
  rw [if_neg hid] at hstate
  by_cases hopen : id ∈ s.takenAlong i ∧ (s.state id).isTerminal = false
  · exact Or.inr ⟨hopen.2, hstate.trans (if_pos hopen), .failed hi ho hfailed hopen.1⟩
  · exact Or.inl (hstate.trans (if_neg hopen))

/-! ### A look at another instance -/

theorem spares_requestGate (hid : id ≠ i.id) : Spares s (s.requestGate i) id := by
  unfold requestGate
  split
  · exact spares_move hid _ _
  · rename_i name _
    have hfacts := asks_releaseFacts s
    generalize s.releaseFacts = asked at hfacts ⊢
    obtain ⟨facts, v⟩ := asked
    dsimp only at hfacts ⊢
    generalize v.gates.request name v.run.id (some v.run.trigger) facts.toOption v.now = change
    have hstages : (({ v with gates := change.table }.deliver change.notices).write
        (.gate change.answer)).run.stages = s.run.stages :=
      ((leaves_told v change.table change.notices).stages).trans hfacts.stages
    generalize ({ v with gates := change.table }.deliver change.notices).write
      (.gate change.answer) = w at hstages ⊢
    have hmoved : ∀ (awaiting : List (String × String)) (st : State) (error : Option String),
        Spares s (move { w with awaiting } i.id st error) id := fun awaiting st error =>
      Or.inl ((state_move_ne (s := { w with awaiting }) hid st error).trans
        (state_congr (s := s) (t := { w with awaiting }) hstages id))
    split
    · exact hmoved _ _ _
    · exact hmoved _ _ _
    · exact hmoved _ _ _

theorem spares_passRelease (hi : s.graph.instance? i.id = some i)
    (ho : (s.state i.id).isTerminal = false) (hid : id ≠ i.id) :
    Spares s (s.passRelease i) id := by
  unfold passRelease
  split
  · have hdecide := asks_decide s
    generalize s.decideRelease = asked at hdecide ⊢
    obtain ⟨answer, v⟩ := asked
    dsimp only at hdecide
    split
    · rename_i hcase
      cases hcase
      exact hdecide.spares (spares_abort _ _ id)
    · rename_i hcase
      cases hcase
      refine hdecide.spares (spares_fail (hdecide.instance_eq hi) ?_ hid _ _)
      rwa [hdecide.state]
    · rename_i hcase
      cases hcase
      split
      · exact hdecide.spares (spares_move hid _ _)
      · exact hdecide.spares (spares_requestGate hid)
  · exact spares_requestGate hid

theorem spares_unlock (hi : s.graph.instance? i.id = some i)
    (ho : (s.state i.id).isTerminal = false) (hid : id ≠ i.id) : Spares s (s.unlock i) id := by
  unfold unlock
  have hholds := asks_conditionHolds s i
  generalize s.conditionHolds i = asked at hholds ⊢
  obtain ⟨answer, v⟩ := asked
  dsimp only at hholds
  split
  · rename_i hcase
    cases hcase
    exact hholds.spares (spares_of_same rfl)
  · rename_i hcase
    cases hcase
    exact hholds.spares (spares_move hid _ _)
  · rename_i hcase
    cases hcase
    refine hholds.spares (spares_passRelease (hholds.instance_eq hi) ?_ hid)
    rwa [hholds.state]

theorem spares_evaluate (hi : s.graph.instance? i.id = some i)
    (ho : (s.state i.id).isTerminal = false) (hid : id ≠ i.id) :
    Spares s (s.evaluate i).2 id := by
  unfold evaluate
  dsimp only
  split
  · exact spares_move hid _ _
  · split
    · exact spares_move hid _ _
    · exact spares_of_same rfl
  · exact spares_unlock hi ho hid

theorem spares_checkGate {j gid : String} (hid : id ≠ j) : Spares s (s.checkGate j gid).2 id := by
  unfold checkGate
  split
  · exact spares_of_same rfl
  · split
    · exact spares_of_same rfl
    · exact spares_move hid _ _
    · exact spares_of_same rfl

theorem spares_visit (hf : Framed s) {j : String} (hid : id ≠ j) :
    Spares s (s.visit j).2 id := by
  unfold visit
  split
  · exact spares_of_same rfl
  · rename_i i hi
    obtain rfl := hf.id_eq hi
    split
    · rename_i was
      exact spares_evaluate hi (by rw [was]; rfl) hid
    · rename_i was
      exact spares_evaluate hi (by rw [was]; rfl) hid
    · exact spares_checkGate hid
    · exact spares_of_same rfl

/-! ### The report of another instance -/

theorem spares_complete (hf : Framed s) {j : String} (hid : id ≠ j) (report : BodyReport) :
    Spares s (s.complete j report) id := by
  by_cases was : s.state j = .running
  case neg =>
    rw [complete_of_not_running was]
    exact spares_of_same rfl
  case pos =>
    obtain ⟨i, rfl, hi⟩ := hf.instance_of_unpending (by rw [was]; simp)
    have ho : (s.state i.id).isTerminal = false := by rw [was]; rfl
    have htakes := takes_complete hf hi was report
    generalize s.complete i.id report = t at htakes ⊢
    cases htakes with
    | cancel error => exact Or.inl (state_move_ne hid _ _)
    | fail text message =>
      exact (spares_fail (s := { s with inFlight := s.inFlight.filter (· ≠ i.id) })
        hi ho hid text message).before rfl rfl rfl
    | @breach o spills text =>
      exact (spares_breach (s := { s with
        inFlight := s.inFlight.filter (· ≠ i.id), run := { s.run with outputs := o } })
        hid text text).before rfl rfl rfl
    | succeed good wrote all =>
      rw [complete_of_success hi was good wrote all]
      exact Or.inl ((state_putPair (s := s) _ _ rfl).trans (if_neg hid))

/-! ## Whose step it is -/

/-- The step is about the instance: its body has reported, or the scheduler looks at it, or its body
is started. -/
inductive OwnStep (s : Scheduler) (id : String) : Scheduler → Prop
  | report {report : BodyReport} {rest : List Event} (next : s.queue = .done id report :: rest)
      (was : s.state id = .running) : OwnStep s id ({ s with queue := rest }.complete id report)
  | look (going : s.halted = false) : OwnStep s id (s.visit id).2
  | start {inputs : List (String × Value)} (able : s.startable id = true) :
      OwnStep s id (s.start id inputs)

/-- A step that moves an instance is about it, or sweeps it away. -/
theorem Step.moved (hf : Framed s) (h : Step s t)
    (hne : t.state id ≠ s.state id) : OwnStep s id t ∨ Swept s t id := by
  have hswept : Spares s t id → OwnStep s id t ∨ Swept s t id :=
    fun hs => Or.inr (hs.resolve_left hne)
  have hsame : t.run.stages = s.run.stages → OwnStep s id t ∨ Swept s t id := fun hst =>
    absurd (state_congr hst id) hne
  cases h with
  | obey => exact hswept (spares_obeyCancel s id)
  | @take e rest next =>
    cases e with
    | done j report =>
      have hfp := hf.rest rest
      by_cases hid : id = j
      · subst hid
        by_cases was : s.state id = .running
        · exact Or.inl (.report next was)
        · refine hsame ?_
          rw [handle, complete_of_not_running (s := { s with queue := rest }) was]
      · exact hswept ((spares_complete hfp hid report).before rfl rfl rfl)
    | gate | wake => exact hsame rfl
  | expire _ gid => exact hsame (aside_expireGate s _ gid).stages
  | visit going j =>
    by_cases hid : id = j
    · subst hid
      exact Or.inl (.look going)
    · exact hswept (spares_visit hf hid)
  | @start j inputs _ _ able _ =>
    by_cases hid : id = j
    · subst hid
      exact Or.inl (.start able)
    · refine absurd ?_ hne
      rw [start_eq (by rw [(ready_of_startable able).1]; rfl) inputs]
      exact (state_putPair (s := s) _ _ rfl).trans (if_neg hid)
  | starve | stall => exact hswept (spares_abort s _ id)
  | finish => exact hsame (aside_finish s).stages
  | breakOff | refuse | giveUp | cancel | report | clock => exact hsame rfl
  | gates _ heard => exact hsame (leaves_told s _ heard).stages
  | decide => exact hsame (aside_decide s).stages

/-! ## What a step about an instance makes of it -/

/-- An instance that waits for dependencies is blocked or skipped by a look. -/
theorem state_evaluate_of_unsatisfied (was : s.state i.id = .pending ∨ s.state i.id = .blocked)
    (h : s.graph.dependencyStatus i.id s.state ≠ .satisfied) :
    (s.evaluate i).2.state i.id = .blocked ∨ (s.evaluate i).2.state i.id = .skipped := by
  have hmoved : ∀ (st : State) (error : Option String), (s.move i.id st error).state i.id = st :=
    fun st error => (state_move (State.not_isTerminal_of_isWaiting (isWaiting_of_was was))
      i.id).trans (if_pos rfl)
  unfold evaluate
  dsimp only
  split
  · exact Or.inr (hmoved _ _)
  · split
    · exact Or.inl (hmoved _ _)
    · rename_i hp
      exact Or.inl (was.resolve_left hp)
  · contradiction

/-- A gate that an instance waits for has it stay where it is or be skipped. -/
theorem state_checkGate (was : s.state id = .ready) (gid : String) :
    (s.checkGate id gid).2.state id = .ready ∨ (s.checkGate id gid).2.state id = .skipped := by
  unfold checkGate
  split
  · exact Or.inl was
  · split
    · exact Or.inl was
    · exact Or.inr ((state_move (by rw [was]; rfl) id).trans (if_pos rfl))
    · exact Or.inl was

/-- A look sees to the dependencies of an instance, or to its gate, or there is nothing to see. -/
theorem visit_cases (hi : s.graph.instance? i.id = some i) :
    (s.state i.id = .pending ∨ s.state i.id = .blocked) ∧ s.visit i.id = s.evaluate i ∨
      (∃ gid, s.state i.id = .ready ∧ getPair? i.id s.awaiting = some gid ∧
        s.visit i.id = s.checkGate i.id gid) ∨ s.visit i.id = (false, s) := by
  unfold visit
  rw [hi]
  dsimp only
  split
  · rename_i was
    exact Or.inl ⟨Or.inl was, rfl⟩
  · rename_i was
    exact Or.inl ⟨Or.inr was, rfl⟩
  · rename_i gid was waits
    exact Or.inr (Or.inl ⟨gid, was, waits, rfl⟩)
  · exact Or.inr (Or.inr rfl)

/-- An instance that a look moves any further than to blocked or skipped is one whose dependencies
have all succeeded. -/
theorem unlocks_of_visit (hi : s.graph.instance? i.id = some i)
    (hne : (s.visit i.id).2.state i.id ≠ s.state i.id)
    (hblocked : (s.visit i.id).2.state i.id ≠ .blocked)
    (hskipped : (s.visit i.id).2.state i.id ≠ .skipped) : Unlocks s i := by
  rcases visit_cases hi with ⟨was, hv⟩ | ⟨gid, was, _, hv⟩ | hv
  · rw [hv] at hblocked hskipped
    refine ⟨hi, was, ?_⟩
    by_contra hunsatisfied
    exact (state_evaluate_of_unsatisfied was hunsatisfied).elim hblocked hskipped
  · rw [hv] at hne hskipped
    rcases state_checkGate was gid with hsame | hskip
    · exact absurd (hsame.trans was.symm) hne
    · exact absurd hskip hskipped
  · rw [hv] at hne
    exact absurd rfl hne

/-- An instance that a step lets go on, or that fails without having been let go on, is one whose
dependencies have all succeeded, and the step is the look at it. -/
theorem Step.unlocks (hf : Framed s) (h : Step s t) (hi : s.graph.instance? i.id = some i)
    (was : (s.state i.id).isCleared = false) (hne : t.state i.id ≠ s.state i.id)
    (now : (t.state i.id).isCleared = true ∨ t.state i.id = .failed) :
    s.halted = false ∧ t = (s.visit i.id).2 ∧ Unlocks s i := by
  rcases h.moved hf hne with hown | ⟨_, cancelled, _⟩
  · cases hown with
    | report _ running => rw [running] at was; cases was
    | start able => rw [(ready_of_startable able).1] at was; cases was
    | look going =>
      refine ⟨going, rfl, unlocks_of_visit hi hne ?_ ?_⟩
      · intro hs
        rw [hs] at now
        rcases now with now | now <;> cases now
      · intro hs
        rw [hs] at now
        rcases now with now | now <;> cases now
  · rw [cancelled] at now
    rcases now with now | now <;> cases now

/-! ## What has ended -/

theorem Leads.state_of_ended (hf : Framed s) (hk : s.gates.Keyed) (h : Leads s t)
    (he : (s.state id).isTerminal = true) : t.state id = s.state id := by
  induction h with
  | refl => rfl
  | @tail u v hlead hstep ih =>
    obtain ⟨hfu, hku⟩ := Leads.framed hf hk hlead
    exact ((hstep.forward hfu hku id).2 (ih ▸ he)).trans ih

end GatedPipeline.Scheduler
