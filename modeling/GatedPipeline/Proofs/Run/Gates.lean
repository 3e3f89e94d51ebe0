-- What a run does about gates while it works: it asks for one, or rejects one
-- that has waited too long, and writes down what it hears of. All else leaves
-- the gate table alone, and writes down no gate.
import GatedPipeline.Proofs.Gate.Copies
import GatedPipeline.Proofs.Run.Mirror
namespace GatedPipeline.Scheduler

variable {s t u : Scheduler} {table table' : GateTable Nat} {gs gs' : List Gate} {i : Instance}

/-! ## What became of the gates -/

/-- What became of the gates while something happened to the run: how the table is now, and which
gates were written down. -/
structure Handles (s t : Scheduler) (table : GateTable Nat) (gs : List Gate) : Prop where
  self : t.self = s.self
  runId : t.run.id = s.run.id
  gates : t.gates = table
  writes : ∃ ws, t.writes = s.writes ++ ws ∧ ws.filterMap JournalWrite.gate? = gs

/-- The run had nothing to do with gates. -/
def Gateless (s t : Scheduler) : Prop := Handles s t s.gates []

theorem Handles.trans (h : Handles s t table gs) (h' : Handles t u table' gs') :
    Handles s u table' (gs ++ gs') := by
  obtain ⟨ws, hw, rfl⟩ := h.writes
  obtain ⟨ws', hw', rfl⟩ := h'.writes
  refine ⟨h'.self.trans h.self, h'.runId.trans h.runId, h'.gates, ws ++ ws', ?_, ?_⟩
  · rw [hw', hw, List.append_assoc]
  · rw [List.filterMap_append]

/-- A change after which the run has nothing more to do with gates. -/
theorem Handles.rest (h : Handles s t table gs) (h' : Gateless t u) : Handles s u table gs := by
  have hboth := h.trans h'
  rwa [List.append_nil, h.gates] at hboth

theorem Gateless.trans (h : Gateless s t) (h' : Gateless t u) : Gateless s u := h.rest h'

/-- Before it the run had nothing to do with gates. -/
theorem Gateless.handles (h : Gateless s t) (h' : Handles t u table gs) : Handles s u table gs :=
  Handles.trans h h'

/-- Some effects are added. -/
theorem handles_of_effects (notes : List Effect) (hself : t.self = s.self)
    (hrun : t.run.id = s.run.id) (hg : t.gates = table) (he : t.effects = s.effects ++ notes)
    (hn : (notes.filterMap journalOf).filterMap JournalWrite.gate? = gs) : Handles s t table gs := by
  refine ⟨hself, hrun, hg, notes.filterMap journalOf, ?_, hn⟩
  rw [writes, he, List.filterMap_append, writes]

/-- What of a scheduler concerns gates, with all that it has done. -/
def face (s : Scheduler) : Nat × String × GateTable Nat × List Effect :=
  (s.self, s.run.id, s.gates, s.effects)

/-- A change to other parts. -/
theorem gateless_of_face (h : t.face = s.face) : Gateless s t := by
  simp only [face, Prod.mk.injEq] at h
  obtain ⟨hself, hrun, hg, he⟩ := h
  exact handles_of_effects [] hself hrun hg (he.trans (List.append_nil _).symm) rfl

/-- The run had nothing to do with gates since a change to other parts. -/
theorem Gateless.of_face (h : Gateless t u) (he : t.face = s.face) : Gateless s u :=
  (gateless_of_face he).trans h

theorem gateless_refl (s : Scheduler) : Gateless s s := gateless_of_face rfl

/-! ## What concerns no gate -/

theorem gateless_move (s : Scheduler) (id : String) (st : State) (error : Option String) :
    Gateless s (s.move id st error) := by
  unfold move
  dsimp only
  split
  · exact gateless_of_face rfl
  · exact handles_of_effects _ rfl rfl rfl (List.append_assoc _ [_] [_]) rfl

theorem gateless_cancelOne (s : Scheduler) (reason id : String) :
    Gateless s (s.cancelOne reason id) := by
  unfold cancelOne
  split
  · exact gateless_refl s
  · dsimp only
    exact (gateless_move _ id .cancelled reason).of_face rfl

theorem gateless_cancelEach (s : Scheduler) (reason : String) (ids : List String) :
    Gateless s (ids.foldl (fun s id => s.cancelOne reason id) s) := by
  induction ids generalizing s with
  | nil => exact gateless_refl s
  | cons id ids ih => exact (gateless_cancelOne s reason id).trans (ih _)

theorem gateless_abort (s : Scheduler) (error : String) : Gateless s (s.abort error) := by
  unfold abort
  exact (gateless_cancelEach _ _ _).of_face rfl

theorem gateless_obeyCancel (s : Scheduler) : Gateless s s.obeyCancel := by
  unfold obeyCancel
  dsimp only
  exact (gateless_cancelEach _ _ _).of_face rfl

theorem gateless_afterFailure (s : Scheduler) (i : Instance) : Gateless s (s.afterFailure i) := by
  unfold afterFailure
  split
  · exact gateless_cancelEach _ _ _
  · split
    · exact gateless_cancelEach _ _ _
    · exact gateless_refl s

/-- An instance fails. -/
theorem gateless_fail (s : Scheduler) (i : Instance) (text message : String) :
    Gateless s (((s.move i.id .failed text).addError message).afterFailure i) :=
  (gateless_move s i.id .failed text).trans
    ((gateless_afterFailure ((s.move i.id .failed text).addError message) i).of_face rfl)

theorem gateless_succeed (s : Scheduler) (i : Instance) (reported : List (String × Value)) :
    Gateless s (s.succeed i reported) := by
  unfold succeed
  dsimp only
  generalize stageOutputs i s.run.outputs reported = staged
  obtain ⟨outputs, fault⟩ := staged
  have hstaged : Gateless s { s with run := { s.run with outputs } } :=
    gateless_of_face rfl
  have hfail : ∀ text : String, Gateless s
      (({ s with run := { s.run with outputs } }.move i.id .failed text).abort text) :=
    fun text => (hstaged.trans (gateless_move _ _ _ _)).trans (gateless_abort _ _)
  dsimp only
  split
  · exact hfail _
  · exact gateless_of_face rfl
  · split
    · refine Gateless.trans ?_ (gateless_of_face (s := move _ i.id .succeeded none) rfl)
      exact (gateless_move _ i.id .succeeded none).of_face rfl
    · exact hfail _

theorem gateless_complete (s : Scheduler) (id : String) (report : BodyReport) :
    Gateless s (s.complete id report) := by
  have hforget : Gateless s { s with inFlight := s.inFlight.filter (· ≠ id) } :=
    gateless_of_face rfl
  unfold complete
  dsimp only
  split
  · exact hforget
  · split
    · exact hforget
    · split
      · exact hforget.trans (gateless_move _ _ _ _)
      · exact hforget.trans (gateless_succeed _ _ _)
      · exact hforget.trans ((gateless_move _ id .failed _).trans
          ((gateless_afterFailure _ _).of_face rfl))

theorem gateless_decideRelease (s : Scheduler) : Gateless s s.decideRelease.2 := by
  unfold decideRelease
  split
  · exact gateless_refl s
  · rename_i engine _
    generalize engine.decide = decided
    obtain ⟨answer, engine'⟩ := decided
    dsimp only
    split
    · exact gateless_of_face rfl
    · rename_i outcome
      have hnoted : Gateless s (if engine.outcome.isNone then
          { s with engine := some engine' }.write (.release s.run.id outcome)
          else { s with engine := some engine' }) := by
        split
        · exact handles_of_effects [.journal (.release s.run.id outcome)] rfl rfl rfl rfl rfl
        · exact gateless_of_face rfl
      generalize (if engine.outcome.isNone then
          { s with engine := some engine' }.write (.release s.run.id outcome)
          else { s with engine := some engine' }) = v at hnoted ⊢
      split
      · split
        · exact hnoted.trans (gateless_of_face rfl)
        · exact hnoted
      · exact hnoted

theorem gateless_releaseFacts (s : Scheduler) : Gateless s s.releaseFacts.2 := by
  have hdecide := gateless_decideRelease s
  unfold releaseFacts
  split
  · exact gateless_refl s
  · split <;> (rename_i heq; rw [heq] at hdecide; exact hdecide)

theorem gateless_conditionHolds (s : Scheduler) (i : Instance) :
    Gateless s (s.conditionHolds i).2 := by
  unfold conditionHolds
  dsimp only
  split
  · exact gateless_releaseFacts s
  · exact gateless_refl s

theorem gateless_start (s : Scheduler) (id : String) (inputs : List (String × Value)) :
    Gateless s (s.start id inputs) := by
  have hmove := gateless_move s id .running none
  unfold start
  dsimp only
  refine hmove.trans ?_
  exact handles_of_effects [.dispatched id inputs] rfl rfl rfl rfl rfl

/-! ## Hearing of gates -/

/-- The gates of the run that the scheduler is told of. -/
def heard (s : Scheduler) (notices : List (Nat × Gate)) : List Gate :=
  (notices.filter fun n => n.1 = s.self && n.2.runId = s.run.id).map (·.2)

theorem mem_heard {notices : List (Nat × Gate)} {g : Gate} :
    g ∈ s.heard notices ↔ (s.self, g) ∈ notices ∧ g.runId = s.run.id := by
  constructor
  · intro hg
    obtain ⟨⟨k, g'⟩, hmine, rfl⟩ := List.mem_map.1 hg
    obtain ⟨hm, hp⟩ := List.mem_filter.1 hmine
    simp only [Bool.and_eq_true, decide_eq_true_eq] at hp
    exact ⟨hp.1 ▸ hm, hp.2⟩
  · intro ⟨hm, hrun⟩
    exact List.mem_map.2 ⟨(s.self, g), List.mem_filter.2 ⟨hm, by simp [hrun]⟩, rfl⟩

/-- What the scheduler hears of gates of its run it writes down. -/
theorem handles_deliver (s : Scheduler) (notices : List (Nat × Gate)) :
    Handles s (s.deliver notices) s.gates (s.heard notices) := by
  induction notices generalizing s with
  | nil => exact gateless_refl s
  | cons n notices ih =>
    obtain ⟨k, g⟩ := n
    have hstep : s.deliver ((k, g) :: notices) =
        (if k = s.self then s.hear g else s.emit (.notice k g)).deliver notices := rfl
    have hone : Handles s (if k = s.self then s.hear g else s.emit (.notice k g)) s.gates
        (s.heard [(k, g)]) := by
      by_cases hk : k = s.self
      · rw [if_pos hk]
        unfold hear
        by_cases hrun : g.runId = s.run.id
        · rw [if_pos hrun]
          refine handles_of_effects [.journal (.gate g)] rfl rfl rfl rfl ?_
          simp [heard, hk, hrun, journalOf, JournalWrite.gate?]
        · rw [if_neg hrun]
          have hnone : s.heard [(k, g)] = [] := by simp [heard, hrun]
          rw [hnone]
          exact gateless_refl s
      · rw [if_neg hk]
        refine handles_of_effects [.notice k g] rfl rfl rfl rfl ?_
        simp [heard, hk, journalOf]
    rw [hstep]
    have hrest := ih (if k = s.self then s.hear g else s.emit (.notice k g))
    have hheard : s.heard ((k, g) :: notices) = s.heard [(k, g)] ++
        (if k = s.self then s.hear g else s.emit (.notice k g)).heard notices := by
      rw [heard, heard, heard, hone.self, hone.runId, ← List.map_append, ← List.filter_append]
      rfl
    rw [hheard]
    exact hone.gates ▸ hone.trans hrest

/-- The table is changed, and the run is told. -/
theorem handles_told (s : Scheduler) (table : GateTable Nat) (notices : List (Nat × Gate)) :
    Handles s ({ s with gates := table }.deliver notices) table (s.heard notices) := by
  have hchanged : Handles s { s with gates := table } table [] :=
    handles_of_effects [] rfl rfl rfl (List.append_nil _).symm rfl
  exact hchanged.trans (handles_deliver { s with gates := table } notices)

/-! ## The work of a run -/

/-- What the work of a run does about gates. -/
inductive GateWork (s t : Scheduler) : Prop
  | none (h : Gateless s t)
  | request (name : String) (trigger : Option Trigger) (release : Option (List (String × String)))
      (now : Time) (h : Handles s t (s.gates.request name s.run.id trigger release now).table
        (s.heard (s.gates.request name s.run.id trigger release now).notices ++
          [(s.gates.request name s.run.id trigger release now).answer]))
  | expire {gid : String} {now : Time} {change : GateChange Nat GateStatus}
      (settled : s.gates.decideAs gid .rejected timeoutActor "approval timed out" now = .ok change)
      (h : Handles s t change.table (s.heard change.notices))

theorem GateWork.of_gateless (h : Gateless s t) (h' : GateWork t u) : GateWork s u := by
  have hheard : t.heard = s.heard := by
    funext notices
    rw [heard, heard, h.self, h.runId]
  cases h' with
  | none h' => exact .none (h.trans h')
  | request name trigger release now h' =>
    rw [hheard, h.gates, h.runId] at h'
    exact .request name trigger release now (h.handles h')
  | expire settled h' =>
    rw [h.gates] at settled
    rw [hheard] at h'
    exact .expire settled (h.handles h')

/-- Nothing that was written is taken back. -/
theorem GateWork.writes (h : GateWork s t) : ∃ ws, t.writes = s.writes ++ ws := by
  cases h with
  | none h | request _ _ _ _ h | expire _ h =>
    obtain ⟨ws, hw, _⟩ := h.writes
    exact ⟨ws, hw⟩

theorem gateWork_requestGate (s : Scheduler) (i : Instance) : GateWork s (s.requestGate i) := by
  unfold requestGate
  split
  · exact .none (gateless_move s i.id .ready none)
  · rename_i name _
    have hfacts := gateless_releaseFacts s
    generalize s.releaseFacts = asked at hfacts ⊢
    obtain ⟨facts, v⟩ := asked
    dsimp only at hfacts ⊢
    refine GateWork.of_gateless hfacts ?_
    have htold := handles_told v
      (v.gates.request name v.run.id (some v.run.trigger) facts.toOption v.now).table
      (v.gates.request name v.run.id (some v.run.trigger) facts.toOption v.now).notices
    have hnoted : ∀ (w : Scheduler) (g : Gate), Handles w (w.write (.gate g)) w.gates [g] :=
      fun w g => handles_of_effects [.journal (.gate g)] rfl rfl rfl rfl rfl
    have hasked := htold.trans (hnoted _
      (v.gates.request name v.run.id (some v.run.trigger) facts.toOption v.now).answer)
    rw [htold.gates] at hasked
    refine .request name (some v.run.trigger) facts.toOption v.now ?_
    generalize v.gates.request name v.run.id (some v.run.trigger) facts.toOption v.now = change
      at hasked ⊢
    split
    · exact hasked.rest (gateless_move _ i.id .skipped _)
    · exact hasked.rest ((gateless_move _ i.id .ready none).of_face rfl)
    · exact hasked.rest (gateless_move _ i.id .ready none)

theorem gateWork_passRelease (s : Scheduler) (i : Instance) : GateWork s (s.passRelease i) := by
  unfold passRelease
  split
  · have hdecide := gateless_decideRelease s
    split
    · rename_i heq
      rw [heq] at hdecide
      exact .none (hdecide.trans (gateless_abort _ _))
    · rename_i heq
      rw [heq] at hdecide
      exact .none (hdecide.trans (gateless_fail _ _ _ _))
    · rename_i heq
      rw [heq] at hdecide
      split
      · exact .none (hdecide.trans (gateless_move _ _ _ _))
      · exact (gateWork_requestGate _ i).of_gateless hdecide
  · exact gateWork_requestGate s i

theorem gateWork_visit (s : Scheduler) (id : String) : GateWork s (s.visit id).2 := by
  have hunlock : ∀ i, GateWork s (s.unlock i) := by
    intro i
    have hholds := gateless_conditionHolds s i
    unfold unlock
    split <;> (rename_i heq; rw [heq] at hholds)
    · exact .none (hholds.trans (gateless_of_face rfl))
    · exact .none (hholds.trans (gateless_move _ _ _ _))
    · exact (gateWork_passRelease _ i).of_gateless hholds
  have hevaluate : ∀ i, GateWork s (s.evaluate i).2 := by
    intro i
    unfold evaluate
    dsimp only
    split
    · exact .none (gateless_move _ _ _ _)
    · split
      · exact .none (gateless_move _ _ _ _)
      · exact .none (gateless_refl s)
    · exact hunlock i
  unfold visit
  split
  · exact .none (gateless_refl s)
  · split
    · exact hevaluate _
    · exact hevaluate _
    · unfold checkGate
      split
      · exact .none (gateless_of_face rfl)
      · split
        · exact .none (gateless_of_face rfl)
        · exact .none (gateless_move _ _ _ _)
        · exact .none (gateless_refl s)
    · exact .none (gateless_refl s)

theorem gateWork_expireGate (s : Scheduler) (span : Time) (gid : String) :
    GateWork s (s.expireGate span gid) := by
  unfold expireGate
  split
  · exact .none (gateless_of_face rfl)
  · split
    · split
      · rename_i change hc
        exact .expire hc (handles_told s change.table change.notices)
      · exact .none (gateless_of_face rfl)
    · exact .none (gateless_refl s)

theorem Work.gateWork (h : Work s t) : GateWork s t := by
  cases h with
  | obey => exact .none (gateless_obeyCancel s)
  | @take e rest =>
    have hpop : Gateless s { s with queue := rest } := gateless_of_face rfl
    cases e with
    | done id report => exact .none (hpop.trans (gateless_complete _ id report))
    | gate | wake => exact .none hpop
  | expire _ gid => exact gateWork_expireGate s _ gid
  | visit _ id => exact gateWork_visit s id
  | start => exact .none (gateless_start s _ _)
  | starve => exact .none (gateless_abort s _)
  | stall => exact .none (gateless_abort s _)
  | breakOff | giveUp | cancel | report | clock => exact .none (gateless_of_face rfl)
  | decide => exact .none (gateless_decideRelease s)

/-! ## The end of a run -/

/-- At its end a run closes its gates, and then hears of no others. -/
theorem handles_finish (s : Scheduler) :
    Handles s s.finish ((s.gates.closeRun s.run.id s.now).table.unsubscribe s.self)
      (s.heard (s.gates.closeRun s.run.id s.now).notices) := by
  have htold := handles_told s (s.gates.closeRun s.run.id s.now).table
    (s.gates.closeRun s.run.id s.now).notices
  have hclean : Handles s s.cleanUp
      ((s.gates.closeRun s.run.id s.now).table.unsubscribe s.self)
      (s.heard (s.gates.closeRun s.run.id s.now).notices) := by
    unfold cleanUp
    dsimp only
    generalize { s with gates := (s.gates.closeRun s.run.id s.now).table }.deliver
      (s.gates.closeRun s.run.id s.now).notices = v at htold ⊢
    have hshut : Handles v { v with
        gates := v.gates.unsubscribe v.self, bodies := []
        effects := v.effects ++ [.shutdown (!(v.superseded || v.fatal))
          ((v.bodies.map fun j => { j with cancelled := true }).map fun j => (j.id, j.cancelled))]
        run := { v.run with outputs := v.run.outputs.close } } (v.gates.unsubscribe v.self) [] :=
      handles_of_effects _ rfl rfl rfl rfl rfl
    have hboth := htold.trans hshut
    rw [List.append_nil, htold.gates, htold.self] at hboth
    rw [htold.gates, htold.self]
    exact hboth
  unfold finish
  dsimp only
  split
  · exact hclean.rest (gateless_of_face rfl)
  · refine hclean.rest ?_
    exact handles_of_effects [.journal (.finish _ _ _)] rfl rfl rfl rfl rfl

end GatedPipeline.Scheduler
