-- What a run that is over says about itself. Its errors account for all that
-- has gone wrong: each piece of the scheduler's own work adds an entry for every
-- instance that fails, and none without a failure or a stop.
import GatedPipeline.Proofs.Run.Decision
import GatedPipeline.Proofs.Run.Halt
namespace GatedPipeline.Scheduler

variable {s₀ s t u v : Scheduler} {id text : String} {st : State} {i : Instance}

/-! ## Entries about instances -/

/-- The entry begins with the identity of the instance, in brackets. -/
def Heads (id text : String) : Prop := ∃ rest, text = s!"[{id}]" ++ rest

theorem Heads.append (h : Heads id text) (more : String) : Heads id (text ++ more) := by
  obtain ⟨rest, rfl⟩ := h
  exact ⟨rest ++ more, String.append_assoc⟩

theorem heads_bracket (id rest : String) : Heads id (s!"[{id}" ++ ("]" ++ rest)) :=
  ⟨rest, String.append_assoc.symm⟩

theorem heads_of_stage (id text : String) : Heads id (s!"[{id}] " ++ text) :=
  (heads_bracket id " ").append text

theorem heads_release (id text : String) :
    Heads id (s!"[{id}] release decision failed: " ++ text) :=
  (heads_bracket id " release decision failed: ").append text

theorem heads_missingOutputs (id : String) (missing : List String) :
    Heads id (missingOutputs id missing) :=
  (heads_bracket id " succeeded without declared outputs: ").append _

theorem heads_duplicate (id k : String) : Heads id (OutputFault.duplicate id k).message :=
  ((heads_bracket id " output '").append k).append "' was already written"

/-! ## What the errors account for -/

/-- The run was aborted, or an instance has failed. -/
def Broken (s : Scheduler) : Prop := s.fatal = true ∨ ∃ id, s.state id = .failed

/-- Something has gone wrong: the run is broken, or it was cancelled. -/
def Marred (s : Scheduler) : Prop := s.Broken ∨ s.superseded = true

/-- What a piece of the scheduler's own work says about itself: it adds an entry for each instance
that fails, and some entry just if it mars the run. It does not end the run. -/
structure Records (s t : Scheduler) : Prop where
  ended : t.ended = s.ended
  errors : ∃ added, t.run.errors = s.run.errors ++ added ∧ (t.Marred ↔ s.Marred ∨ added ≠ []) ∧
    ∀ id, t.state id = .failed → s.state id = .failed ∨ ∃ text ∈ added, Heads id text

theorem Records.trans (h : Records s t) (h' : Records t u) : Records s u where
  ended := h'.ended.trans h.ended
  errors := by
    obtain ⟨added, he, hmarred, hfailed⟩ := h.errors
    obtain ⟨added', he', hmarred', hfailed'⟩ := h'.errors
    refine ⟨added ++ added', by rw [he', he, List.append_assoc], ?_, fun id hid => ?_⟩
    · rw [hmarred', hmarred, or_assoc, ← not_and_or, ← List.append_eq_nil_iff]
    · rcases hfailed' id hid with hid | ⟨text, hm, hheads⟩
      · exact (hfailed id hid).imp_right fun ⟨text, hm, hheads⟩ =>
          ⟨text, List.mem_append_left _ hm, hheads⟩
      · exact Or.inr ⟨text, List.mem_append_right _ hm, hheads⟩

/-- Nothing goes wrong, and nothing is said. -/
theorem records_of_same (hended : t.ended = s.ended) (herrors : t.run.errors = s.run.errors)
    (hflags : t.flags = s.flags) (hfailed : ∀ id, t.state id = .failed ↔ s.state id = .failed) :
    Records s t where
  ended := hended
  errors := by
    refine ⟨[], by rw [herrors, List.append_nil], ?_, fun id hid => Or.inl ((hfailed id).1 hid)⟩
    simp only [Marred, Broken, fatal_of_flags hflags, superseded_of_flags hflags, hfailed, ne_eq,
      not_true_eq_false, or_false]

theorem records_of_rest (h : t = { s with
    run := { s.run with outputs := t.run.outputs }
    gates := t.gates, engine := t.engine, queue := t.queue, inFlight := t.inFlight
    bodies := t.bodies, awaiting := t.awaiting, dispatched := t.dispatched, crash := t.crash
    effects := t.effects }) : Records s t := by
  rw [h]
  exact records_of_same rfl rfl rfl fun _ => Iff.rfl

theorem records_refl (s : Scheduler) : Records s s := records_of_rest rfl

/-- Something goes wrong, and one entry says so. -/
theorem records_of_entry (hended : t.ended = s.ended)
    (herrors : t.run.errors = s.run.errors ++ [text]) (hmarred : t.Marred)
    (hfailed : ∀ id, t.state id = .failed → s.state id = .failed ∨ Heads id text) :
    Records s t where
  ended := hended
  errors := by
    refine ⟨[text], herrors, iff_of_true hmarred (Or.inr (by simp)), fun id hid => ?_⟩
    exact (hfailed id hid).imp_right fun hheads => ⟨text, List.mem_singleton_self _, hheads⟩

/-! ### Moves -/

@[simp] theorem ended_move (s : Scheduler) (id : String) (st : State) (error : Option String) :
    (s.move id st error).ended = s.ended := by
  unfold move
  dsimp only
  split <;> rfl

/-- Nobody fails by moving to another state. -/
theorem records_move (s : Scheduler) (id : String) (hst : st ≠ .failed) (error : Option String) :
    Records s (s.move id st error) := by
  refine records_of_same (ended_move s id st error) (errors_of_desk (desk_move s id st error))
    (flags_move s id st error) fun j => ?_
  by_cases he : (s.state id).isTerminal = true
  · have hrefused : s.move id st error =
        { s with crash := some (.alreadyEnded id (s.run.record id).state st) } := if_pos he
    rw [hrefused]
    rfl
  · have ho : (s.state id).isTerminal = false := by simpa using he
    rw [state_move ho]
    split
    · rename_i hj
      subst hj
      refine iff_of_false hst fun hfailed => ?_
      rw [hfailed] at ho
      cases ho
    · exact Iff.rfl

theorem records_cancelOne (s : Scheduler) (reason id : String) :
    Records s (s.cancelOne reason id) := by
  unfold cancelOne
  split
  · exact records_refl s
  · have hstop : Records s { s.stopBody id with
        inFlight := (s.stopBody id).inFlight.filter (· ≠ id) } := records_of_rest rfl
    exact hstop.trans (records_move _ id (by simp) _)

theorem records_cancelEach (ids : List String) (reason : String) (s : Scheduler) :
    Records s (ids.foldl (fun s id => s.cancelOne reason id) s) := by
  induction ids generalizing s with
  | nil => exact records_refl s
  | cons id ids ih => exact (records_cancelOne s reason id).trans (ih _)

theorem records_afterFailure (s : Scheduler) (i : Instance) : Records s (s.afterFailure i) := by
  unfold afterFailure
  split
  · exact records_cancelEach _ _ _
  · split
    · exact records_cancelEach _ _ _
    · exact records_refl s

/-! ### Failures and stops -/

theorem records_fail (ho : (s.state i.id).isTerminal = false) (error : Option String)
    (heads : Heads i.id text) :
    Records s (((s.move i.id .failed error).addError text).afterFailure i) := by
  have hstate : ∀ id, ((s.move i.id .failed error).addError text).state id =
      if id = i.id then .failed else s.state id := fun id => state_move ho id
  have hentry : Records s ((s.move i.id .failed error).addError text) := by
    refine records_of_entry (ended_move s i.id .failed error)
      (congrArg (· ++ [text]) (errors_of_desk (desk_move s i.id .failed error)))
      (Or.inl (Or.inr ⟨i.id, (hstate i.id).trans (if_pos rfl)⟩)) fun id hid => ?_
    rw [hstate] at hid
    split at hid
    · rename_i hsame
      exact Or.inr (hsame ▸ heads)
    · exact Or.inl hid
  exact hentry.trans (records_afterFailure _ i)

/-- The run is aborted, and its error heads those that have failed just before. -/
theorem records_abort_of (hended : t.ended = s.ended) (herrors : t.run.errors = s.run.errors)
    (hfailed : ∀ id, t.state id = .failed → s.state id = .failed ∨ Heads id text) :
    Records s (t.abort text) := by
  have hflag : Records s ({ t with fatal := true }.addError text) :=
    records_of_entry hended (congrArg (· ++ [text]) herrors) (Or.inl (Or.inl rfl)) hfailed
  exact hflag.trans (records_cancelEach _ _ _)

theorem records_abort (s : Scheduler) (text : String) : Records s (s.abort text) :=
  records_abort_of rfl rfl fun _ => Or.inl

/-- A breach of contract fails the instance and aborts the run with one entry. -/
theorem records_breach (ho : (s.state i.id).isTerminal = false) (error : Option String)
    (heads : Heads i.id text) : Records s ((s.move i.id .failed error).abort text) := by
  refine records_abort_of (ended_move s i.id .failed error)
    (errors_of_desk (desk_move s i.id .failed error)) fun id hid => ?_
  rw [state_move ho] at hid
  split at hid
  · rename_i hsame
    exact Or.inr (hsame ▸ heads)
  · exact Or.inl hid

theorem records_obeyCancel (s : Scheduler) : Records s s.obeyCancel := by
  have hflag : ∀ text, Records s ({ s with superseded := true }.addError text) :=
    fun _ => records_of_entry rfl rfl (Or.inr rfl) fun _ => Or.inl
  exact (hflag _).trans (records_cancelEach _ _ _)

/-! ### Asking others -/

theorem records_deliver (s : Scheduler) (notices : List (Nat × Gate)) :
    Records s (s.deliver notices) := by
  obtain ⟨notes, events, he, _⟩ := deliver_eq s notices
  rw [he]
  exact records_of_rest rfl

theorem records_decide (s : Scheduler) : Records s s.decideRelease.2 := by
  obtain ⟨engine, notes, outputs, he, _⟩ := decideRelease_eq s
  rw [he]
  exact records_of_rest rfl

theorem records_releaseFacts (s : Scheduler) : Records s s.releaseFacts.2 := by
  rw [releaseFacts_snd]
  exact records_decide s

theorem records_conditionHolds (s : Scheduler) (i : Instance) :
    Records s (s.conditionHolds i).2 := by
  unfold conditionHolds
  dsimp only
  split
  · exact records_releaseFacts s
  · exact records_refl s

/-! ### Looking at instances -/

theorem records_requestGate (s : Scheduler) (i : Instance) : Records s (s.requestGate i) := by
  unfold requestGate
  split
  · exact records_move s i.id (by simp) none
  · rename_i name _
    have hfacts := records_releaseFacts s
    generalize s.releaseFacts = asked at hfacts ⊢
    obtain ⟨facts, v⟩ := asked
    dsimp only at hfacts ⊢
    generalize v.gates.request name v.run.id (some v.run.trigger) facts.toOption v.now = change
    have htable : Records v { v with gates := change.table } := records_of_rest rfl
    have hasked : Records s (({ v with gates := change.table }.deliver change.notices).write
        (.gate change.answer)) :=
      ((hfacts.trans htable).trans (records_deliver _ _)).trans (records_of_rest rfl)
    generalize ({ v with gates := change.table }.deliver change.notices).write
      (.gate change.answer) = w at hasked ⊢
    split
    · exact hasked.trans (records_move w i.id (by simp) _)
    · have hwaits : Records w { w with awaiting := putPair i.id change.answer.id w.awaiting } :=
        records_of_rest rfl
      exact (hasked.trans hwaits).trans (records_move _ i.id (by simp) none)
    · exact hasked.trans (records_move w i.id (by simp) none)

theorem records_passRelease (ho : (s.state i.id).isTerminal = false) :
    Records s (s.passRelease i) := by
  unfold passRelease
  split
  · have hdecide := records_decide s
    have hstate := (aside_decide s).state i.id
    rcases hr : s.decideRelease with ⟨answer, v⟩
    rw [hr] at hdecide hstate
    dsimp only at hdecide hstate
    split
    · rename_i hcase
      cases hcase
      exact hdecide.trans (records_abort v _)
    · rename_i hcase
      cases hcase
      exact hdecide.trans (records_fail (by rwa [hstate]) _ (heads_release _ _))
    · rename_i hcase
      cases hcase
      split
      · exact hdecide.trans (records_move v i.id (by simp) _)
      · exact hdecide.trans (records_requestGate v i)
  · exact records_requestGate s i

theorem records_unlock (ho : (s.state i.id).isTerminal = false) : Records s (s.unlock i) := by
  have hholds := records_conditionHolds s i
  have hstate := (asks_conditionHolds s i).state i.id
  unfold unlock
  generalize s.conditionHolds i = asked at hholds hstate ⊢
  obtain ⟨answer, v⟩ := asked
  dsimp only at hholds hstate
  split
  · rename_i hcase
    cases hcase
    exact hholds.trans (records_of_rest rfl)
  · rename_i hcase
    cases hcase
    exact hholds.trans (records_move _ i.id (by simp) _)
  · rename_i hcase
    cases hcase
    exact hholds.trans (records_passRelease (by rwa [hstate]))

theorem records_evaluate (ho : (s.state i.id).isTerminal = false) :
    Records s (s.evaluate i).2 := by
  unfold evaluate
  dsimp only
  split
  · exact records_move s i.id (by simp) _
  · split
    · exact records_move s i.id (by simp) _
    · exact records_refl s
  · exact records_unlock ho

theorem records_checkGate (s : Scheduler) (id gid : String) : Records s (s.checkGate id gid).2 := by
  unfold checkGate
  split
  · exact records_of_rest rfl
  · split
    · exact records_of_rest rfl
    · exact records_move s id (by simp) _
    · exact records_refl s

theorem records_visit (hf : Framed s) (id : String) : Records s (s.visit id).2 := by
  unfold visit
  split
  · exact records_refl s
  · rename_i i hi
    obtain rfl := hf.id_eq hi
    split
    · rename_i was
      exact records_evaluate (by rw [was]; rfl)
    · rename_i was
      exact records_evaluate (by rw [was]; rfl)
    · exact records_checkGate s _ _
    · exact records_refl s

/-! ### Taking in reports -/

theorem records_succeed (ho : (s.state i.id).isTerminal = false)
    (unended : i.id ∉ s.run.outputs.ended) (reported : List (String × Value)) :
    Records s (s.succeed i reported) := by
  unfold succeed
  dsimp only
  rcases hw : stageOutputs i s.run.outputs reported with ⟨outputs, fault⟩
  dsimp only
  have hstaged : Records s { s with run := { s.run with outputs } } := records_of_rest rfl
  have hbreach : ∀ text, Heads i.id text → Records s
      ((move { s with run := { s.run with outputs } } i.id .failed text).abort text) :=
    fun text heads => hstaged.trans
      (records_breach (s := { s with run := { s.run with outputs } }) ho _ heads)
  split
  · rename_i hduplicate
    obtain ⟨_, hsame⟩ := duplicate_of_stageOutputs unended (congrArg Prod.snd hw)
    cases hsame
    exact hbreach _ (heads_duplicate _ _)
  · exact hstaged.trans (records_of_rest rfl)
  · split
    · -- the outputs are put into the record before the instance moves
      have hrecord : Records s { s with run := { s.run with
          outputs
          stages := putPair i.id { s.run.record i.id with outputs := outputs.stagedOf i.id }
            s.run.stages } } := by
        refine records_of_same rfl rfl rfl fun id => ?_
        rw [state_putPair _ _ rfl]
        split
        · rename_i hsame
          rw [hsame]
          rfl
        · exact Iff.rfl
      exact (hrecord.trans (records_move _ i.id (by simp) none)).trans (records_of_rest rfl)
    · exact hbreach _ (heads_missingOutputs _ _)

theorem records_complete (hf : Framed s) (id : String) (report : BodyReport) :
    Records s (s.complete id report) := by
  have hforget : Records s { s with inFlight := s.inFlight.filter (· ≠ id) } :=
    records_of_rest rfl
  by_cases was : s.state id = .running
  case neg =>
    rw [complete_of_not_running was]
    exact hforget
  case pos =>
    obtain ⟨i, rfl, hi⟩ := hf.instance_of_unpending (by rw [was]; simp)
    have ho : (s.state i.id).isTerminal = false := by rw [was]; rfl
    have unended := hf.unended ho
    rw [complete_of_running hi was]
    split
    · exact hforget.trans (records_move _ i.id (by simp) _)
    · exact hforget.trans (records_succeed
        (s := { s with inFlight := s.inFlight.filter (· ≠ i.id) }) ho unended _)
    · exact hforget.trans (records_fail
        (s := { s with inFlight := s.inFlight.filter (· ≠ i.id) }) ho _ (heads_of_stage _ _))

/-! ### Every piece of work -/

theorem records_expireGate (s : Scheduler) (span : Time) (gid : String) :
    Records s (s.expireGate span gid) := by
  unfold expireGate
  split
  · exact records_of_rest rfl
  · split
    · split
      · rename_i change _
        have htable : Records s { s with gates := change.table } := records_of_rest rfl
        exact htable.trans (records_deliver _ _)
      · exact records_of_rest rfl
    · exact records_refl s

theorem Own.records (hf : Framed s) (h : Own s t) : Records s t := by
  cases h with
  | obey => exact records_obeyCancel s
  | @take e rest next =>
    have hpop : Records s { s with queue := rest } := records_of_rest rfl
    cases e with
    | done id report => exact hpop.trans (records_complete (hf.rest rest) id report)
    | gate | wake => exact hpop
  | expire _ gid => exact records_expireGate s _ gid
  | visit _ id => exact records_visit hf id
  | start => exact (records_move s _ (by simp) none).trans (records_of_rest rfl)
  | starve => exact records_abort s _
  | stall => exact records_abort s _
  | breakOff | giveUp => exact records_of_rest rfl
  | decide => exact records_decide s

theorem Owns.ended (hf : Framed s) (hk : s.gates.Keyed) (h : Owns s t) : t.ended = s.ended := by
  induction h with
  | refl => rfl
  | tail howns hown ih =>
    exact (hown.records (Leads.framed hf hk (Owns.leads howns)).1).ended.trans ih

/-! ## Along a run -/

/-- The errors of the run account for what has gone wrong: there are some just if something has, and
one begins with each instance that has failed. -/
structure Accounted (s : Scheduler) : Prop where
  marred : s.Marred ↔ s.run.errors ≠ []
  failed : ∀ id, s.state id = .failed → ∃ text ∈ s.run.errors, Heads id text

theorem Records.accounted (h : Records s t) (ha : Accounted s) : Accounted t := by
  obtain ⟨added, he, hmarred, hfailed⟩ := h.errors
  constructor
  · rw [hmarred, ha.marred, he, ← not_and_or, ← List.append_eq_nil_iff]
  · intro id hid
    rw [he]
    rcases hfailed id hid with hid | ⟨text, hm, hheads⟩
    · obtain ⟨text, hm, hheads⟩ := ha.failed id hid
      exact ⟨text, List.mem_append_left _ hm, hheads⟩
    · exact ⟨text, List.mem_append_right _ hm, hheads⟩

theorem Accounted.of_same (ha : Accounted s) (herrors : t.run.errors = s.run.errors)
    (hflags : t.flags = s.flags) (hstages : t.run.stages = s.run.stages) : Accounted t where
  marred := by
    rw [herrors, ← ha.marred]
    simp only [Marred, Broken, fatal_of_flags hflags, superseded_of_flags hflags,
      state_congr hstages]
  failed := by
    intro id hid
    rw [state_congr hstages] at hid
    rw [herrors]
    exact ha.failed id hid

/-- What is not the scheduler's own work leaves what it accounts for as it is. -/
theorem Step.own_or_same (h : Step s t) : Own s t ∨
    t.run.errors = s.run.errors ∧ t.flags = s.flags ∧ t.run.stages = s.run.stages := by
  cases h with
  | obey asked first => exact Or.inl (.obey asked first)
  | take next => exact Or.inl (.take next)
  | expire limit gid => exact Or.inl (.expire limit gid)
  | visit going id => exact Or.inl (.visit going id)
  | start going room able gathered => exact Or.inl (.start going room able gathered)
  | starve going able missing => exact Or.inl (.starve going able missing)
  | breakOff going able failed => exact Or.inl (.breakOff going able failed)
  | stall unfinished idle => exact Or.inl (.stall unfinished idle)
  | giveUp => exact Or.inl .giveUp
  | decide => exact Or.inl .decide
  | finish => exact Or.inr ⟨errors_finish s, flags_finish s, (aside_finish s).stages⟩
  | refuse | cancel | report | clock => exact Or.inr ⟨rfl, rfl, rfl⟩
  | @gates table _ _ heard =>
    have htold := leaves_told s table heard
    exact Or.inr ⟨htold.errors, (asks_deliver _ heard).flags, htold.stages⟩

theorem Poised.unfailed (h : Poised s) (id : String) : s.state id ≠ .failed := by
  rcases h.state id with hs | hs <;> rw [hs] <;> simp

theorem Leads.accounted (h₀ : Untouched s₀) (h : Leads s₀ s) : Accounted s := by
  induction h with
  | refl =>
    refine ⟨?_, fun id hid => absurd hid (h₀.unfailed id)⟩
    simp [Marred, Broken, h₀.fatal, h₀.superseded, h₀.errors, h₀.unfailed]
  | tail hlead hstep ih =>
    rcases hstep.own_or_same with hown | ⟨herrors, hflags, hstages⟩
    · exact (hown.records (Leads.framed h₀.framed h₀.keyed hlead).1).accounted ih
    · exact ih.of_same herrors hflags hstages

/-! ## What the flags stand for -/

/-- Some step on the way aborted the run. -/
def Aborted (s₀ s : Scheduler) : Prop :=
  ∃ (u v : Scheduler) (error : String), Leads s₀ u ∧ Step u (v.abort error) ∧ Leads (v.abort error) s

/-- Some step on the way obeyed a request to cancel the run. -/
def Cancelled (s₀ s : Scheduler) : Prop :=
  ∃ u, Leads s₀ u ∧ u.cancelReason.isSome = true ∧ Step u u.obeyCancel ∧ Leads u.obeyCancel s

theorem Stoppage.aborted {culprit : Option String} (hf : Framed s) (hk : s.gates.Keyed)
    (h : Stoppage s culprit t) (going : s.fatal = false) (aborted : t.fatal = true) :
    ∃ (v : Scheduler) (error : String), t = v.abort error := by
  have hlook : ∀ {id : String}, s.halted = false → (s.visit id).2.fatal = true →
      ∃ (v : Scheduler) (error : String), (s.visit id).2 = v.abort error := by
    intro id alive aborted
    obtain ⟨v, error, _, ht⟩ := visit_aborted hf hk alive aborted
    exact ⟨v, error, ht⟩
  cases h with
  | cancel =>
    have hflags : s.obeyCancel.flags = (s.fatal, true) := flags_cancelEach _ _ _
    rw [show s.obeyCancel.fatal = s.fatal from congrArg Prod.fst hflags, going] at aborted
    cases aborted
  | @breach _ _ rest _ was => exact complete_aborted (hf.rest rest) was going aborted
  | @failure _ _ rest _ was => exact complete_aborted (hf.rest rest) was going aborted
  | duplicate alive => exact hlook alive aborted
  | undecided alive => exact hlook alive aborted
  | starve | stall => exact ⟨s, _, rfl⟩

theorem Stoppage.cancelled {culprit : Option String} (hf : Framed s) (hk : s.gates.Keyed)
    (h : Stoppage s culprit t) (first : s.superseded = false) (now : t.superseded = true) :
    s.cancelReason.isSome = true ∧ t = s.obeyCancel := by
  have hnot : t.superseded ≠ s.superseded := by
    rw [first, now]
    simp
  have hlook : ∀ id, (s.visit id).2.superseded = s.superseded := by
    intro id
    by_cases hsame : (s.visit id).2 = s
    · rw [hsame]
    · obtain ⟨i, _, hlooks⟩ := looks_of_visit hf hk hsame
      exact hlooks.superseded
  cases h with
  | cancel asked => exact ⟨asked, rfl⟩
  | @breach _ report rest _ was =>
    exact absurd (failed_of_complete (hf.rest rest) was report).1 hnot
  | @failure _ report rest _ was =>
    exact absurd (failed_of_complete (hf.rest rest) was report).1 hnot
  | duplicate | undecided => exact absurd (hlook _) hnot
  | starve | stall => exact absurd (congrArg Prod.snd (flags_abort s _)) hnot

theorem Leads.fatal_iff (h₀ : Poised s₀) (h : Leads s₀ s) : s.fatal = true ↔ Aborted s₀ s := by
  constructor
  · intro aborted
    induction h with
    | refl =>
      rw [h₀.fatal] at aborted
      cases aborted
    | @tail u v hlead hstep ih =>
      obtain ⟨hf, hk⟩ := Leads.framed h₀.framed h₀.keyed hlead
      rcases going : u.fatal with _ | _
      · obtain ⟨_, hstop⟩ := hstep.stoppage h₀ hlead (Or.inr (Or.inl ⟨going, aborted⟩))
        obtain ⟨w, error, rfl⟩ := hstop.aborted hf hk going aborted
        exact ⟨u, w, error, hlead, hstep, Leads.refl _⟩
      · obtain ⟨u', w, error, hu', habort, hw⟩ := ih going
        exact ⟨u', w, error, hu', habort, hw.snoc hstep⟩
  · rintro ⟨u, v, error, hu, habort, hv⟩
    obtain ⟨hf, hk⟩ := (hu.snoc habort).framed h₀.framed h₀.keyed
    exact (hv.steady hf hk).fatal (congrArg Prod.fst (flags_abort v error))

theorem Leads.superseded_iff (h₀ : Poised s₀) (h : Leads s₀ s) :
    s.superseded = true ↔ Cancelled s₀ s := by
  constructor
  · intro cancelled
    induction h with
    | refl =>
      rw [h₀.superseded] at cancelled
      cases cancelled
    | @tail u v hlead hstep ih =>
      obtain ⟨hf, hk⟩ := Leads.framed h₀.framed h₀.keyed hlead
      rcases first : u.superseded with _ | _
      · obtain ⟨_, hstop⟩ := hstep.stoppage h₀ hlead (Or.inl ⟨first, cancelled⟩)
        obtain ⟨asked, rfl⟩ := hstop.cancelled hf hk first cancelled
        exact ⟨u, hlead, asked, hstep, Leads.refl _⟩
      · obtain ⟨u', hu', asked, hobey, hv⟩ := ih first
        exact ⟨u', hu', asked, hobey, hv.snoc hstep⟩
  · rintro ⟨u, hu, _, hobey, hs⟩
    have hfu := (hu.framed h₀.framed h₀.keyed).1
    obtain ⟨hf, hk⟩ := (hu.snoc hobey).framed h₀.framed h₀.keyed
    rcases hs.notes_of_allEnded hf hk (allEnded_obeyCancel hfu) with ⟨hsame, _⟩ | ⟨hnot, _⟩
    · exact hsame.trans (superseded_obeyCancel u)
    · rw [superseded_obeyCancel u] at hnot
      cases hnot

/-! ## The end of a run -/

/-- A turn, be it the first one or a later one, ends the run, and the run did not break off. -/
structure Ends (s t : Scheduler) : Prop where
  going : s.ended = false
  turn : t = s.begin ∨ t = s.turn
  ended : t.ended = true
  whole : t.crash = none

/-- Whenever the scheduler goes on until the run is over, everything has ended. -/
theorem proceed_finishes (hf : Framed s) (hk : s.gates.Keyed) (going : s.ended = false)
    (ended : s.proceed.ended = true) (whole : s.proceed.crash = none) :
    ∃ v, Leads s v ∧ s.proceed = v.finish ∧ v.crash = none ∧ v.run.finished = true := by
  have hobey := owns_obey s
  unfold proceed at ended whole ⊢
  dsimp only at ended whole ⊢
  generalize (if s.cancelReason.isSome && !s.superseded then s.obeyCancel else s) = v
    at hobey ended whole ⊢
  have hadvance := hobey.trans (owns_advance v)
  obtain ⟨hfv, _⟩ := hadvance.leads.framed hf hk
  by_cases hstop : (v.advance.crash.isSome || v.advance.run.finished) = true
  · rw [if_pos hstop] at ended whole ⊢
    rw [crash_finish] at whole
    exact ⟨_, hadvance.leads, rfl, whole, by simpa [whole] using hstop⟩
  · rw [if_neg hstop] at ended whole ⊢
    by_cases hidle : v.advance.stalled = true
    · rw [if_pos hidle] at ended whole ⊢
      rw [crash_finish] at whole
      have hstall := (hadvance.snoc (.stall (by simp_all) hidle)).leads
      exact ⟨_, hstall, rfl, whole,
        finished_of_allEnded (hstall.framed hf hk).1 (allEnded_abort hfv _)⟩
    · -- the scheduler waits for an event, and has not ended the run
      rw [if_neg hidle, hadvance.ended hf hk, going] at ended
      cases ended

theorem Ends.finishes (hf : Framed s) (hk : s.gates.Keyed) (h : Ends s t) :
    ∃ v, Leads s v ∧ t = v.finish ∧ v.crash = none ∧ v.run.finished = true := by
  obtain ⟨going, rfl | rfl, ended, whole⟩ := h
  · have hlisten : Leads s { s with gates := s.gates.subscribe s.self } :=
      (Step.gates (.subscribe s.self) []).leads
    obtain ⟨hfl, hkl⟩ := hlisten.framed hf hk
    by_cases room : 0 < s.maxParallel
    · rw [begin_eq room] at ended whole ⊢
      obtain ⟨v, hv, hrest⟩ := proceed_finishes hfl hkl going ended whole
      exact ⟨v, hlisten.trans hv, hrest⟩
    · rw [begin, if_pos (Int.not_lt.1 room)] at whole
      cases whole
  · rcases s.turn_cases with ⟨u, hu, hturn⟩ | hturn
    · rw [hturn] at ended whole ⊢
      obtain ⟨hfu, hku⟩ := hu.leads.framed hf hk
      obtain ⟨v, hv, hrest⟩ := proceed_finishes hfu hku ((hu.ended hf hk).trans going) ended whole
      exact ⟨v, hu.leads.trans hv, hrest⟩
    · rw [hturn, going] at ended
      cases ended

theorem finalStatus_spec (hf : Framed s) :
    (s.finalStatus = .failed ↔ s.Broken) ∧
    (s.finalStatus = .cancelled ↔ ¬ s.Broken ∧ s.superseded = true) ∧
    (s.finalStatus = .succeeded ↔ ¬ s.Broken ∧ s.superseded = false) := by
  have hnodup : (s.run.stages.map (·.1)).Nodup := hf.keys ▸ hf.sound.ids_nodup
  have hfailed : (s.run.stages.any fun p => p.2.state == .failed) = true ↔
      ∃ id, s.state id = .failed := by
    rw [List.any_eq_true]
    constructor
    · rintro ⟨p, hp, hstate⟩
      exact ⟨p.1, (state_eq_of_getPair? (getPair?_of_mem hnodup hp)).trans (by simpa using hstate)⟩
    · rintro ⟨id, hid⟩
      obtain ⟨r, hr⟩ := exists_getPair?_of_key_mem (mem_of_state_ne (s := s) (by rw [hid]; simp))
      rw [state_eq_of_getPair? hr] at hid
      exact ⟨(id, r), mem_of_getPair? hr, by simpa using hid⟩
  have hbroken : (s.fatal || s.run.stages.any fun p => p.2.state == .failed) = true ↔ s.Broken := by
    rw [Bool.or_eq_true, hfailed, Broken]
  unfold finalStatus
  split
  · rename_i h
    simp [hbroken.1 h]
  · rename_i h
    have hwhole : ¬ s.Broken := fun hb => h (hbroken.2 hb)
    split
    · rename_i hs
      simp [hwhole, hs]
    · rename_i hs
      simp [hwhole, hs]

/-! ## The law -/

/-- An instance of the run has failed, or some step on the way aborted the run. -/
def Foundered (s₀ s : Scheduler) : Prop :=
  (∃ id ∈ s.graph.ids, s.state id = .failed) ∨ Aborted s₀ s

/-- The status of a run that is over tells how it went: it has failed just if an instance has or the
run was aborted, otherwise it is cancelled just if a request to cancel it was obeyed, and otherwise
it has succeeded. It has errors just if it has not succeeded, one of them begins with each instance
that has failed, and every instance has ended. -/
theorem the_status_of_a_run_tells_how_it_went (h₀ : Untouched s₀) (h : Leads s₀ s)
    (ends : Ends s t) :
    (t.run.status = .failed ↔ Foundered s₀ t) ∧
    (t.run.status = .cancelled ↔ ¬ Foundered s₀ t ∧ Cancelled s₀ t) ∧
    (t.run.status = .succeeded ↔ ¬ Foundered s₀ t ∧ ¬ Cancelled s₀ t) ∧
    (t.run.errors = [] ↔ t.run.status = .succeeded) ∧
    (∀ id ∈ t.graph.ids, t.state id = .failed → ∃ text ∈ t.run.errors, Heads id text) ∧
    ∀ id ∈ t.graph.ids, (t.state id).isTerminal = true := by
  obtain ⟨hf, hk⟩ := h.framed h₀.framed h₀.keyed
  obtain ⟨v, hv, rfl, whole, finished⟩ := ends.finishes hf hk
  have hlead : Leads s₀ v.finish := (h.trans hv).snoc .finish
  obtain ⟨hft, _⟩ := hlead.framed h₀.framed h₀.keyed
  have haside := aside_finish v
  have hstatus : v.finish.run.status = v.finish.finalStatus := by
    rw [status_finish whole, finalStatus, finalStatus, haside.stages,
      fatal_of_flags (flags_finish v), superseded_of_flags (flags_finish v)]
  have hfoundered : v.finish.Broken ↔ Foundered s₀ v.finish := by
    rw [Broken, hlead.fatal_iff h₀.toPoised, or_comm, Foundered]
    refine or_congr_left (exists_congr fun id => ⟨fun hid => ⟨?_, hid⟩, And.right⟩)
    rw [← hft.keys]
    exact mem_of_state_ne (by rw [hid]; simp)
  have hcancelled := hlead.superseded_iff h₀.toPoised
  have haccounted := hlead.accounted h₀
  obtain ⟨hfailure, hcancellation, hsuccess⟩ := finalStatus_spec hft
  rw [← hstatus, hfoundered] at hfailure hcancellation hsuccess
  rw [hcancelled] at hcancellation
  rw [← Bool.not_eq_true, hcancelled] at hsuccess
  refine ⟨hfailure, hcancellation, hsuccess, ?_, fun id _ => haccounted.failed id, fun id hid => ?_⟩
  · rw [hsuccess, ← hfoundered, ← hcancelled, ← not_or]
    exact not_iff_not.1 (by rw [not_not]; exact haccounted.marred.symm)
  · rw [haside.state]
    have hgraph : v.finish.graph = v.graph := haside.graph
    exact ((h.trans hv).framed h₀.framed h₀.keyed).1.ended_of_finished finished (hgraph ▸ hid)

/-- The build ends without its image, and the errors say so. -/
theorem the_build_without_its_image_is_among_the_errors :
    Ends shipEmpty shipEmpty.turn ∧ shipEmpty.turn.run.status = .failed ∧
      (∃ text ∈ shipEmpty.turn.run.errors, Heads "build" text) ∧
      (shipEmpty.turn.state "deploy").isTerminal = true := by
  have hends : Ends shipEmpty shipEmpty.turn :=
    ⟨by decide +kernel, Or.inr rfl, by decide +kernel, by decide +kernel⟩
  have hbuild : shipEmpty.turn.state "build" = .failed := by decide +kernel
  have hids : "build" ∈ shipEmpty.turn.graph.ids ∧ "deploy" ∈ shipEmpty.turn.graph.ids := by
    decide +kernel
  obtain ⟨hfailure, _, _, _, hentries, hended⟩ :=
    the_status_of_a_run_tells_how_it_went untouched_shipStart course_shipEmpty.leads hends
  exact ⟨hends, hfailure.2 (Or.inl ⟨"build", hids.1, hbuild⟩), hentries "build" hids.1 hbuild,
    hended "deploy" hids.2⟩

end GatedPipeline.Scheduler
