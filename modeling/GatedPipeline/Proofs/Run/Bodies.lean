-- The bodies of a run and what they report. A body in flight that was not told
-- to stop is that of a running instance, a report in the queue is that of a body
-- that has ended, and a request to cancel is noted among the errors once.
import GatedPipeline.Proofs.Run.Lifecycle
import GatedPipeline.Proofs.Run.Stop
namespace GatedPipeline.Scheduler

variable {s₀ s t u : Scheduler} {id : String} {st : State} {i : Instance}

/-! ## Entries about a cancellation -/

/-- Whether an entry among the errors of a run is about its cancellation. -/
def isCancelEntry (text : String) : Bool := "cancelled:".toList.isPrefixOf text.toList

@[simp] theorem isCancelEntry_reason (reason : String) :
    isCancelEntry s!"cancelled: {reason}" = true := by
  have hs : s!"cancelled: {reason}" = "cancelled:" ++ (" " ++ reason) := by
    simp only [toString, ← String.append_assoc]
    rfl
  rw [isCancelEntry, hs, String.toList_append]
  simp

theorem not_isCancelEntry_append {first : String} {c : Char} (text : String)
    (h : first.toList.head? = some c) (hc : c ≠ 'c') : isCancelEntry (first ++ text) = false := by
  have hp : isCancelEntry (first ++ text) =
      ('c' :: "ancelled:".toList).isPrefixOf (first.toList ++ text.toList) := by
    rw [isCancelEntry, String.toList_append]
    simp
  rw [hp]
  generalize first.toList = cs at h
  cases cs with
  | nil => cases h
  | cons d rest =>
    cases h
    rw [List.cons_append, List.isPrefixOf_cons_cons]
    simp [Ne.symm hc]

/-- An entry that begins with the instance that it is about. -/
theorem not_isCancelEntry_bracket (text : String) : isCancelEntry ("[" ++ text) = false :=
  not_isCancelEntry_append text rfl (by decide)

theorem not_isCancelEntry_of_stage (id text : String) :
    isCancelEntry (s!"[{id}] " ++ text) = false := by
  simpa only [toString, String.append_assoc] using not_isCancelEntry_bracket _

theorem not_isCancelEntry_release (id text : String) :
    isCancelEntry (s!"[{id}] release decision failed: " ++ text) = false := by
  simpa only [toString, String.append_assoc] using not_isCancelEntry_bracket _

theorem not_isCancelEntry_missingOutputs (id : String) (missing : List String) :
    isCancelEntry (missingOutputs id missing) = false := by
  simpa only [missingOutputs, toString, String.append_assoc] using not_isCancelEntry_bracket _

theorem not_isCancelEntry_duplicate (p k : String) :
    isCancelEntry (OutputFault.duplicate p k).message = false := by
  show isCancelEntry s!"[{p}] output '{k}' was already written" = false
  simpa only [toString, String.append_assoc] using not_isCancelEntry_bracket _

theorem not_isCancelEntry_missing (p k : String) :
    isCancelEntry (OutputFault.missing p k).message = false := by
  show isCancelEntry s!"[{p}] terminated without writing output '{k}'" = false
  simpa only [toString, String.append_assoc] using not_isCancelEntry_bracket _

theorem not_isCancelEntry_stalled (s : Scheduler) : isCancelEntry s.stalledMessage = false :=
  @not_isCancelEntry_append "scheduler stalled with non-terminal stages: " _ _ rfl
    (by decide)

/-! ## What a move leaves alone -/

/-- What lies before the scheduler: the events that it has not handled, the errors of the run, and
what the readers of the outputs see. -/
def desk (s : Scheduler) : List Event × List String × List (String × List (String × Value)) :=
  (s.queue, s.run.errors, s.run.outputs.published)

@[simp] theorem desk_move (s : Scheduler) (id : String) (st : State) (error : Option String) :
    (s.move id st error).desk = s.desk := by
  unfold move
  dsimp only
  split
  · rfl
  · simp only [desk, write, emit]
    split <;> rfl

@[simp] theorem bodies_move (s : Scheduler) (id : String) (st : State) (error : Option String) :
    (s.move id st error).bodies = s.bodies := by
  unfold move
  dsimp only
  split <;> rfl

@[simp] theorem desk_cancelOne (s : Scheduler) (reason : String) (id : String) :
    (s.cancelOne reason id).desk = s.desk := by
  unfold cancelOne
  split
  · rfl
  · exact desk_move _ _ _ _

@[simp] theorem desk_cancelEach (ids : List String) (reason : String) (s : Scheduler) :
    (ids.foldl (fun s id => s.cancelOne reason id) s).desk = s.desk := by
  induction ids generalizing s with
  | nil => rfl
  | cons id ids ih => simp [ih]

@[simp] theorem desk_cancelAll (s : Scheduler) (reason : String) :
    (s.cancelAll reason).desk = s.desk := desk_cancelEach _ _ _

@[simp] theorem desk_afterFailure (s : Scheduler) (i : Instance) :
    (s.afterFailure i).desk = s.desk := by
  unfold afterFailure
  split
  · simp
  · split <;> simp

theorem desk_abort (s : Scheduler) (error : String) :
    (s.abort error).desk = (s.queue, s.run.errors ++ [error], s.run.outputs.published) :=
  desk_cancelAll _ _

theorem desk_obeyCancel (s : Scheduler) : ∃ reason : String, s.obeyCancel.desk =
    (s.queue, s.run.errors ++ [s!"cancelled: {reason}"], s.run.outputs.published) :=
  ⟨_, desk_cancelAll _ _⟩

theorem queue_of_desk (h : t.desk = s.desk) : t.queue = s.queue := congrArg Prod.fst h

theorem errors_of_desk (h : t.desk = s.desk) : t.run.errors = s.run.errors :=
  congrArg (·.2.1) h

theorem published_of_desk (h : t.desk = s.desk) :
    t.run.outputs.published = s.run.outputs.published := congrArg (·.2.2) h

theorem queue_abort (s : Scheduler) (error : String) : (s.abort error).queue = s.queue :=
  congrArg Prod.fst (desk_abort s error)

theorem queue_obeyCancel (s : Scheduler) : s.obeyCancel.queue = s.queue := by
  obtain ⟨_, hd⟩ := desk_obeyCancel s
  exact congrArg Prod.fst hd

/-- Taking in a report leaves the other events where they are. -/
theorem queue_complete (s : Scheduler) (id : String) (report : BodyReport) :
    (s.complete id report).queue = s.queue := by
  have hfail : ∀ (v : Scheduler) (i : Instance) (text : String),
      ((v.move i.id .failed text).abort text).queue = v.queue := fun v i text =>
    (queue_abort _ text).trans (queue_of_desk (desk_move v i.id .failed text))
  have hsucceed : ∀ (v : Scheduler) (i : Instance) (reported : List (String × Value)),
      (v.succeed i reported).queue = v.queue := by
    intro v i reported
    unfold succeed
    dsimp only
    generalize stageOutputs i v.run.outputs reported = staged
    obtain ⟨outputs, fault⟩ := staged
    dsimp only
    split
    · exact hfail _ i _
    · rfl
    · split
      · exact congrArg Prod.fst (desk_move { v with run := { v.run with
          outputs
          stages := putPair i.id { v.run.record i.id with outputs := outputs.stagedOf i.id }
            v.run.stages } } i.id .succeeded none)
      · exact hfail _ i _
  unfold complete
  dsimp only
  split
  · rfl
  · rename_i i _
    split
    · rfl
    · split
      · exact queue_of_desk (desk_move _ _ _ _)
      · exact hsucceed _ _ _
      · exact (queue_of_desk (desk_afterFailure _ i)).trans
          (congrArg Prod.fst (desk_move _ id .failed _))

/-! ## What happens to bodies -/

/-- Nothing happens to a body, and the scheduler is told of no report. -/
structure Leaves (s t : Scheduler) : Prop where
  superseded : t.superseded = s.superseded
  reports : ∀ id report, .done id report ∈ t.queue → .done id report ∈ s.queue
  errors : t.run.errors = s.run.errors
  bodies : t.bodies = s.bodies
  stages : t.run.stages = s.run.stages

theorem leaves_refl (s : Scheduler) : Leaves s s := ⟨rfl, fun _ _ h => h, rfl, rfl, rfl⟩

theorem Leaves.trans (h : Leaves s t) (h' : Leaves t u) : Leaves s u where
  superseded := h'.superseded.trans h.superseded
  reports := fun id report hm => h.reports id report (h'.reports id report hm)
  errors := h'.errors.trans h.errors
  bodies := h'.bodies.trans h.bodies
  stages := h'.stages.trans h.stages

theorem Leaves.state (h : Leaves s t) (id : String) : t.state id = s.state id :=
  state_congr h.stages id

/-- No body is started and none is forgotten that runs on: one that is still in flight was before,
and if its instance has stopped running it has been told to stop. The scheduler is told of no
report, and of no cancellation. -/
structure Attends (s t : Scheduler) : Prop where
  superseded : t.superseded = s.superseded
  reports : ∀ id report, .done id report ∈ t.queue → .done id report ∈ s.queue
  errors : ∃ added, t.run.errors = s.run.errors ++ added ∧
    ∀ text ∈ added, isCancelEntry text = false
  bodies : ∀ j ∈ t.bodies, ∃ j' ∈ s.bodies, j'.id = j.id ∧
    (j'.cancelled = true → j.cancelled = true) ∧
    (s.state j.id = .running → t.state j.id = .running ∨ j.cancelled = true)

/-- The bodies in flight stay as they are, and so do their instances. -/
theorem attends_of_same (hsuper : t.superseded = s.superseded) (hqueue : t.queue = s.queue)
    (herrors : t.run.errors = s.run.errors) (hbodies : t.bodies = s.bodies)
    (hstate : ∀ j ∈ s.bodies, t.state j.id = s.state j.id) : Attends s t where
  superseded := hsuper
  reports := fun _ _ hm => hqueue ▸ hm
  errors := ⟨[], by rw [herrors, List.append_nil], by simp⟩
  bodies := fun j hj => ⟨j, hbodies ▸ hj, rfl, fun h => h, fun h =>
    Or.inl ((hstate j (hbodies ▸ hj)).trans h)⟩

theorem Leaves.attends (h : Leaves s t) : Attends s t where
  superseded := h.superseded
  reports := h.reports
  errors := ⟨[], by rw [h.errors, List.append_nil], by simp⟩
  bodies := fun j hj => ⟨j, h.bodies ▸ hj, rfl, fun hc => hc, fun hr =>
    Or.inl ((h.state j.id).trans hr)⟩

theorem attends_refl (s : Scheduler) : Attends s s := (leaves_refl s).attends

theorem Attends.trans (h : Attends s t) (h' : Attends t u) : Attends s u where
  superseded := h'.superseded.trans h.superseded
  reports := fun id report hm => h.reports id report (h'.reports id report hm)
  errors := by
    obtain ⟨added, he, hn⟩ := h.errors
    obtain ⟨added', he', hn'⟩ := h'.errors
    refine ⟨added ++ added', by rw [he', he, List.append_assoc], fun text hm => ?_⟩
    exact (List.mem_append.1 hm).elim (hn text) (hn' text)
  bodies := by
    intro j hj
    obtain ⟨j', hj', hid', hc', hr'⟩ := h'.bodies j hj
    obtain ⟨j'', hj'', hid, hc, hr⟩ := h.bodies j' hj'
    refine ⟨j'', hj'', hid.trans hid', fun hf => hc' (hc hf), fun hrun => ?_⟩
    rw [← hid'] at hrun
    rcases hr hrun with hrun | hflag
    · exact hr' (hid' ▸ hrun)
    · exact Or.inr (hc' hflag)

theorem attends_addError (s : Scheduler) {text : String} (h : isCancelEntry text = false) :
    Attends s (s.addError text) :=
  { attends_refl s with errors := ⟨[text], rfl, by simpa using h⟩ }

/-- A move of an instance of which no body is in flight while it runs. -/
theorem attends_move (s : Scheduler) (h : s.state id = .running → ∀ j ∈ s.bodies, j.id ≠ id)
    (st : State) (error : Option String) : Attends s (s.move id st error) := by
  by_cases ho : (s.state id).isTerminal = true
  · -- the move is refused
    have hrefused : s.move id st error =
        { s with crash := some (.alreadyEnded id (s.run.record id).state st) } := if_pos ho
    rw [hrefused]
    exact attends_of_same rfl rfl rfl rfl fun _ _ => rfl
  · have ho' : (s.state id).isTerminal = false := by simpa using ho
    refine { attends_refl s with
      superseded := superseded_of_flags (flags_move s id st error)
      reports := fun _ _ hm => (queue_of_desk (desk_move s id st error)) ▸ hm
      errors := ⟨[], ?_, by simp⟩
      bodies := fun j hj => ?_ }
    · rw [List.append_nil]
      exact errors_of_desk (desk_move s id st error)
    · rw [bodies_move] at hj
      refine ⟨j, hj, rfl, fun hc => hc, fun hr => Or.inl ?_⟩
      rw [state_move ho', if_neg]
      · exact hr
      · intro hid
        exact h (hid ▸ hr) j hj hid

/-- A move of an instance that does not run. -/
theorem attends_move_of_waiting (s : Scheduler) (h : (s.state id).isWaiting = true) (st : State)
    (error : Option String) : Attends s (s.move id st error) := by
  refine attends_move s (fun hr => ?_) st error
  rw [hr] at h
  cases h

/-! ### Cancelling -/

theorem attends_cancelOne (s : Scheduler) (reason id : String) :
    Attends s (s.cancelOne reason id) := by
  unfold cancelOne
  split
  · exact attends_refl s
  · rename_i ho
    have ho' : (s.state id).isTerminal = false := by simpa using ho
    rw [move_of_open (s := { s.stopBody id with
      inFlight := (s.stopBody id).inFlight.filter (· ≠ id) }) ho']
    refine ⟨rfl, fun _ _ hm => hm, ⟨[], (List.append_nil _).symm, by simp⟩, fun j hj => ?_⟩
    obtain ⟨j', hj', rfl⟩ := List.mem_map.1 hj
    by_cases hid : j'.id = id
    · refine ⟨j', hj', ?_, ?_, ?_⟩ <;> simp [hid]
    · refine ⟨j', hj', ?_, ?_, fun hr => Or.inl ?_⟩
      · simp [hid]
      · simp [hid]
      · rw [if_neg hid] at hr ⊢
        rw [state_putPair (s := s) _ _ rfl, if_neg hid]
        exact hr

theorem attends_cancelEach (ids : List String) (reason : String) (s : Scheduler) :
    Attends s (ids.foldl (fun s id => s.cancelOne reason id) s) := by
  induction ids generalizing s with
  | nil => exact attends_refl s
  | cons id ids ih => exact (attends_cancelOne s reason id).trans (ih _)

theorem attends_afterFailure (s : Scheduler) (i : Instance) : Attends s (s.afterFailure i) := by
  unfold afterFailure
  split
  · exact attends_cancelEach _ _ _
  · split
    · exact attends_cancelEach _ _ _
    · exact attends_refl s

theorem attends_abort (s : Scheduler) {error : String} (h : isCancelEntry error = false) :
    Attends s (s.abort error) := by
  have hflag : Attends s { s with fatal := true } := attends_of_same rfl rfl rfl rfl fun _ _ => rfl
  exact (hflag.trans (attends_addError _ h)).trans (attends_cancelEach _ _ _)

/-! ### Asking others -/

theorem leaves_deliver (s : Scheduler) (notices : List (Nat × Gate)) :
    Leaves s (s.deliver notices) := by
  obtain ⟨notes, events, he, _, hgates⟩ := deliver_eq s notices
  rw [he]
  refine ⟨rfl, fun id report hm => ?_, rfl, rfl, rfl⟩
  rcases List.mem_append.1 hm with hm | hm
  · exact hm
  · obtain ⟨gid, hg⟩ := hgates _ hm
    cases hg

theorem leaves_told (s : Scheduler) (table : GateTable Nat) (notices : List (Nat × Gate)) :
    Leaves s ({ s with gates := table }.deliver notices) := by
  have htable : Leaves s { s with gates := table } := ⟨rfl, fun _ _ hm => hm, rfl, rfl, rfl⟩
  exact htable.trans (leaves_deliver _ notices)

theorem leaves_decide (s : Scheduler) : Leaves s s.decideRelease.2 := by
  obtain ⟨engine, notes, outputs, he, _⟩ := decideRelease_eq s
  rw [he]
  exact ⟨rfl, fun _ _ hm => hm, rfl, rfl, rfl⟩

theorem leaves_releaseFacts (s : Scheduler) : Leaves s s.releaseFacts.2 := by
  have hdecide := leaves_decide s
  unfold releaseFacts
  split
  · exact leaves_refl s
  · split <;> (rename_i heq; rw [heq] at hdecide; exact hdecide)

theorem leaves_conditionHolds (s : Scheduler) (i : Instance) :
    Leaves s (s.conditionHolds i).2 := by
  unfold conditionHolds
  dsimp only
  split
  · exact leaves_releaseFacts s
  · exact leaves_refl s

/-! ### Looking at instances -/

theorem attends_requestGate (was : (s.state i.id).isWaiting = true) :
    Attends s (s.requestGate i) := by
  unfold requestGate
  split
  · exact attends_move_of_waiting _ was _ _
  · rename_i name _
    have hfacts := leaves_releaseFacts s
    generalize s.releaseFacts = asked at hfacts ⊢
    obtain ⟨facts, v⟩ := asked
    dsimp only at hfacts ⊢
    generalize v.gates.request name v.run.id (some v.run.trigger) facts.toOption v.now = change
    have hnoted : ∀ (w : Scheduler) (g : Gate), Leaves w (w.write (.gate g)) :=
      fun w g => ⟨rfl, fun _ _ hm => hm, rfl, rfl, rfl⟩
    have hasked := (hfacts.trans (leaves_told v change.table change.notices)).trans
      (hnoted _ change.answer)
    generalize ({ v with gates := change.table }.deliver change.notices).write
      (.gate change.answer) = w at hasked ⊢
    have hwas : (w.state i.id).isWaiting = true := by rwa [hasked.state]
    split
    · exact hasked.attends.trans (attends_move_of_waiting _ hwas _ _)
    · have hwaits : Leaves w { w with awaiting := putPair i.id change.answer.id w.awaiting } :=
        ⟨rfl, fun _ _ hm => hm, rfl, rfl, rfl⟩
      exact (hasked.trans hwaits).attends.trans (attends_move_of_waiting
        { w with awaiting := putPair i.id change.answer.id w.awaiting } hwas _ _)
    · exact hasked.attends.trans (attends_move_of_waiting _ hwas _ _)

theorem attends_passRelease (was : (s.state i.id).isWaiting = true) :
    Attends s (s.passRelease i) := by
  unfold passRelease
  split
  · have hdecide := leaves_decide s
    rcases hr : s.decideRelease with ⟨answer, v⟩
    rw [hr] at hdecide
    dsimp only at hdecide
    have hwas : (v.state i.id).isWaiting = true := by rwa [hdecide.state]
    split
    · rename_i hcase
      cases hcase
      exact hdecide.attends.trans (attends_abort v (not_isCancelEntry_duplicate _ _))
    · rename_i hcase
      cases hcase
      exact ((hdecide.attends.trans (attends_move_of_waiting _ hwas _ _)).trans
        (attends_addError _ (not_isCancelEntry_release _ _))).trans (attends_afterFailure _ i)
    · rename_i hcase
      cases hcase
      split
      · exact hdecide.attends.trans (attends_move_of_waiting _ hwas _ _)
      · exact hdecide.attends.trans (attends_requestGate hwas)
  · exact attends_requestGate was

theorem attends_unlock (was : (s.state i.id).isWaiting = true) : Attends s (s.unlock i) := by
  have hholds := leaves_conditionHolds s i
  unfold unlock
  generalize s.conditionHolds i = asked at hholds ⊢
  obtain ⟨answer, v⟩ := asked
  dsimp only at hholds
  have hwas : (v.state i.id).isWaiting = true := by rwa [hholds.state]
  split
  · rename_i hcase
    cases hcase
    exact hholds.attends.trans (attends_of_same rfl rfl rfl rfl fun _ _ => rfl)
  · rename_i hcase
    cases hcase
    exact hholds.attends.trans (attends_move_of_waiting _ hwas _ _)
  · rename_i hcase
    cases hcase
    exact hholds.attends.trans (attends_passRelease hwas)

theorem attends_evaluate (was : (s.state i.id).isWaiting = true) :
    Attends s (s.evaluate i).2 := by
  unfold evaluate
  dsimp only
  split
  · exact attends_move_of_waiting _ was _ _
  · split
    · exact attends_move_of_waiting _ was _ _
    · exact attends_refl s
  · exact attends_unlock was

theorem attends_checkGate (was : (s.state id).isWaiting = true) (gid : String) :
    Attends s (s.checkGate id gid).2 := by
  unfold checkGate
  split
  · exact attends_of_same rfl rfl rfl rfl fun _ _ => rfl
  · split
    · exact attends_of_same rfl rfl rfl rfl fun _ _ => rfl
    · exact attends_move_of_waiting _ was _ _
    · exact attends_refl s

theorem attends_visit (hf : Framed s) (id : String) : Attends s (s.visit id).2 := by
  unfold visit
  split
  · exact attends_refl s
  · rename_i i hi
    obtain rfl := hf.id_eq hi
    split
    · rename_i was
      exact attends_evaluate (by rw [was]; rfl)
    · rename_i was
      exact attends_evaluate (by rw [was]; rfl)
    · rename_i was _
      exact attends_checkGate (by rw [was]; rfl) _
    · exact attends_refl s

/-! ### Taking in reports -/

theorem attends_succeed (s : Scheduler) (ended : ∀ j ∈ s.bodies, j.id ≠ i.id)
    (reported : List (String × Value)) : Attends s (s.succeed i reported) := by
  unfold succeed
  dsimp only
  generalize stageOutputs i s.run.outputs reported = staged
  obtain ⟨outputs, fault⟩ := staged
  dsimp only
  have hstaged : Attends s { s with run := { s.run with outputs } } :=
    attends_of_same rfl rfl rfl rfl fun _ _ => rfl
  have hbreach : ∀ text : String, isCancelEntry text = false → Attends s
      (({ s with run := { s.run with outputs } }.move i.id .failed text).abort text) :=
    fun text hn => (hstaged.trans (attends_move { s with run := { s.run with outputs } }
      (fun _ => ended) .failed text)).trans (attends_abort _ hn)
  split
  · exact hbreach _ (not_isCancelEntry_duplicate _ _)
  · exact attends_of_same rfl rfl rfl rfl fun _ _ => rfl
  · split
    · -- the outputs are put into the record before the instance moves
      have hrecord : Attends s { s with run := { s.run with
          outputs
          stages := putPair i.id { s.run.record i.id with outputs := outputs.stagedOf i.id }
            s.run.stages } } :=
        attends_of_same rfl rfl rfl rfl fun j hj => by
          rw [state_putPair _ _ rfl, if_neg (ended j hj)]
      refine (hrecord.trans (attends_move _ (fun _ => ?_) .succeeded none)).trans
        (attends_of_same rfl rfl rfl rfl fun _ _ => rfl)
      exact ended
    · exact hbreach _ (not_isCancelEntry_missingOutputs _ _)

/-- The report is that of a body that has ended. -/
theorem attends_complete (hf : Framed s) (ended : ∀ j ∈ s.bodies, j.id ≠ id)
    (report : BodyReport) : Attends s (s.complete id report) := by
  unfold complete
  dsimp only
  have hforget : Attends s { s with inFlight := s.inFlight.filter (· ≠ id) } :=
    attends_of_same rfl rfl rfl rfl fun _ _ => rfl
  have hframe : Framed { s with inFlight := s.inFlight.filter (· ≠ id) } :=
    ⟨hf.sound, hf.keys, hf.ended⟩
  have hended : ∀ j ∈ bodies { s with inFlight := s.inFlight.filter (· ≠ id) }, j.id ≠ id := ended
  generalize { s with inFlight := s.inFlight.filter (· ≠ id) } = v at hforget hframe hended ⊢
  split
  · exact hforget
  · rename_i i hi
    obtain rfl := hframe.id_eq hi
    split
    · exact hforget
    · split
      · exact hforget.trans (attends_move v (fun _ => hended) _ _)
      · exact hforget.trans (attends_succeed v hended _)
      · exact ((hforget.trans (attends_move v (fun _ => hended) _ _)).trans
          (attends_addError _ (not_isCancelEntry_of_stage _ _))).trans (attends_afterFailure _ i)

/-! ### The end of a run -/

theorem leaves_expireGate (s : Scheduler) (span : Time) (gid : String) :
    Leaves s (s.expireGate span gid) := by
  unfold expireGate
  split
  · exact ⟨rfl, fun _ _ hm => hm, rfl, rfl, rfl⟩
  · split
    · split
      · exact leaves_told s _ _
      · exact ⟨rfl, fun _ _ hm => hm, rfl, rfl, rfl⟩
    · exact leaves_refl s

theorem errors_finish (s : Scheduler) : s.finish.run.errors = s.run.errors := by
  have htold := leaves_told s (s.gates.closeRun s.run.id s.now).table
    (s.gates.closeRun s.run.id s.now).notices
  unfold finish
  dsimp only
  split <;> exact htold.errors

theorem attends_finish (s : Scheduler) : Attends s s.finish := by
  have hclean : Attends s s.cleanUp := by
    have htold := leaves_told s (s.gates.closeRun s.run.id s.now).table
      (s.gates.closeRun s.run.id s.now).notices
    exact ⟨htold.superseded, htold.reports, htold.attends.errors, fun _ hj => by cases hj⟩
  refine hclean.trans ?_
  unfold finish
  dsimp only
  split <;> exact attends_of_same rfl rfl rfl rfl fun _ _ => rfl

end GatedPipeline.Scheduler
