-- What the single moves of a scheduler do to it. Each is said once, as an
-- equation between the scheduler before and after, so that what a move leaves
-- alone can be read off.
import GatedPipeline.Run.Turn
import GatedPipeline.Proofs.Pairs
import GatedPipeline.Proofs.Outputs
namespace GatedPipeline

/-! ## States -/

theorem State.lost_of_ended (st : State) : (st.isTerminal && st != .succeeded) = st.isLost := by
  cases st <;> rfl

theorem State.isTerminal_of_isLost {st : State} (h : st.isLost = true) : st.isTerminal = true := by
  cases st <;> simp_all [isLost, isTerminal]

theorem State.not_isTerminal_of_isWaiting {st : State} (h : st.isWaiting = true) :
    st.isTerminal = false := by
  cases st <;> simp_all [isWaiting, isTerminal]

theorem State.rank_of_isLost {st : State} (h : st.isLost = true) : st.rank = 4 := by
  cases st <;> simp_all [isLost, rank]

theorem State.rank_of_isTerminal {st : State} (h : st.isTerminal = true) : st.rank = 4 := by
  cases st <;> simp_all [isTerminal, rank]

theorem State.rank_lt_of_unended {st : State} (h : st.isTerminal = false) : st.rank < 4 := by
  cases st <;> simp_all [isTerminal, rank]

/-- A state that another one is further than is no end. -/
theorem State.unended_of_further {st st' : State} (h : st.rank < st'.rank) :
    st.isTerminal = false := by
  cases st <;> cases st' <;> simp_all [isTerminal, rank]

/-- Whether an effect neither moves an instance nor starts a body. -/
def Effect.isQuiet : Effect → Bool
  | .moved .. | .dispatched .. | .journal (.state ..) => false
  | _ => true

/-- Whether an effect is quiet and no release decision is written down. -/
def Effect.isPlain : Effect → Bool
  | .journal (.release ..) => false
  | e => e.isQuiet

theorem Effect.isQuiet_of_isPlain {e : Effect} (h : e.isPlain = true) : e.isQuiet = true := by
  unfold isPlain at h
  split at h
  · cases h
  · exact h

/-! ## The release engine -/

theorem ReleaseEngine.decide_of_outcome {e : ReleaseEngine} {o : ReleaseOutcome}
    (h : e.outcome = some o) : e.decide = (.ok o, e) := by
  simp [decide, h]

/-- The engine keeps the decision that it gives. -/
theorem ReleaseEngine.outcome_of_decide {e e' : ReleaseEngine} {o : ReleaseOutcome}
    (h : e.decide = (.ok o, e')) : e'.outcome = some o := by
  unfold decide at h
  split at h
  · rename_i o' ho
    cases h
    exact ho
  · simp only at h
    split at h
    · cases h; rfl
    · cases h

theorem ReleaseEngine.source_of_decide {e e' : ReleaseEngine}
    {answer : Except SourceFault ReleaseOutcome} (h : e.decide = (answer, e')) :
    e'.source = e.source := by
  unfold decide at h
  split at h
  · cases h; rfl
  · simp only at h
    split at h <;> cases h <;> rfl

/-- What an engine decides first was read at its source. -/
theorem ReleaseEngine.read_of_decide {e e' : ReleaseEngine} {o : ReleaseOutcome}
    (hn : e.outcome = none) (h : e.decide = (.ok o, e')) : e.readSource = .ok o := by
  simp only [decide, hn] at h
  split at h
  · rename_i ho
    cases h
    exact ho
  · cases h

/-- An engine that gives no decision has none, and its source gave none. -/
theorem ReleaseEngine.decide_of_error {e e' : ReleaseEngine} {fault : SourceFault}
    (h : e.decide = (.error fault, e')) :
    e.outcome = none ∧ e'.outcome = none ∧ e.readSource = .error fault := by
  unfold decide at h
  split at h
  · cases h
  · rename_i hnone
    simp only at h
    split at h
    · cases h
    · rename_i hread
      cases h
      exact ⟨hnone, hnone, hread⟩

namespace Scheduler

variable {s t : Scheduler} {id : String} {st : State} {error : Option String}

/-! ## Looking at instances -/

theorem state_congr (h : t.run.stages = s.run.stages) (id : String) : t.state id = s.state id := by
  simp only [state, Run.state, Run.record, h]

/-- An instance that the run does not have counts as pending. -/
theorem state_of_not_mem (h : id ∉ s.run.stages.map (·.1)) : s.state id = .pending := by
  simp [state, Run.state, Run.record, getPair?_eq_none_iff.2 h]

theorem mem_of_state_ne (h : s.state id ≠ .pending) : id ∈ s.run.stages.map (·.1) := by
  by_cases hm : id ∈ s.run.stages.map (·.1)
  · exact hm
  · exact absurd (state_of_not_mem hm) h

theorem state_eq_of_getPair? {r : StageRecord} (h : getPair? id s.run.stages = some r) :
    s.state id = r.state := by
  simp [state, Run.state, Run.record, h]

/-! ## A move -/

/-- What a move makes of the scheduler, if the instance has not ended. -/
theorem move_of_open (h : (s.state id).isTerminal = false) :
    s.move id st error =
      { s with
        run := { s.run with
          stages := putPair id (movedRecord (s.run.record id) st error s.now) s.run.stages
          outputs := if st.isLost then s.run.outputs.discard id else s.run.outputs }
        awaiting := if st.isTerminal then dropPair id s.awaiting else s.awaiting
        effects := s.effects ++
          [.journal (.state s.run.id id (movedRecord (s.run.record id) st error s.now)),
            .moved id (movedRecord (s.run.record id) st error s.now)] } := by
  have h' : (s.run.record id).state.isTerminal = false := h
  simp [move, h', write, emit, State.lost_of_ended]

theorem state_putPair (r : StageRecord) (j : String)
    (ht : t.run.stages = putPair id r s.run.stages) :
    t.state j = if j = id then r.state else s.state j := by
  simp only [state, Run.state, Run.record, ht, getPair?_putPair]
  split <;> rfl

/-- A move changes the state of the one instance. -/
theorem state_move (h : (s.state id).isTerminal = false) (j : String) :
    (s.move id st error).state j = if j = id then st else s.state j :=
  state_putPair (movedRecord (s.run.record id) st error s.now) j (by rw [move_of_open h])

/-! ## Hearing of gates -/

/-- Passing on what listeners were told moves nothing: it is written down, and the scheduler gets
an event for each gate that it hears of. -/
theorem deliver_eq (s : Scheduler) (notices : List (Nat × Gate)) :
    ∃ notes events,
      s.deliver notices = { s with effects := s.effects ++ notes, queue := s.queue ++ events } ∧
        (∀ e ∈ notes, e.isPlain = true) ∧ ∀ e ∈ events, ∃ gid, e = .gate gid := by
  induction notices generalizing s with
  | nil => exact ⟨[], [], by simp [deliver], by simp, by simp⟩
  | cons n notices ih =>
    obtain ⟨k, g⟩ := n
    have hone : ∃ notes events, (if k = s.self then s.hear g else s.emit (.notice k g)) =
        { s with effects := s.effects ++ notes, queue := s.queue ++ events } ∧
          (∀ e ∈ notes, e.isPlain = true) ∧ ∀ e ∈ events, ∃ gid, e = Event.gate gid := by
      unfold hear
      split
      · split
        · exact ⟨[.journal (.gate g)], [.gate g.id], rfl,
            by simp [Effect.isPlain, Effect.isQuiet], by simp⟩
        · exact ⟨[], [], by simp, by simp, by simp⟩
      · exact ⟨[.notice k g], [], by simp [emit], by simp [Effect.isPlain, Effect.isQuiet],
          by simp⟩
    obtain ⟨notes, events, he, hq, hg⟩ := hone
    obtain ⟨notes', events', he', hq', hg'⟩ := ih (if k = s.self then s.hear g
      else s.emit (.notice k g))
    refine ⟨notes ++ notes', events ++ events', ?_, ?_, ?_⟩
    · rw [show s.deliver ((k, g) :: notices) =
        (if k = s.self then s.hear g else s.emit (.notice k g)).deliver notices from rfl, he', he]
      simp [List.append_assoc]
    · intro e h
      rcases List.mem_append.1 h with h | h
      · exact hq e h
      · exact hq' e h
    · intro e h
      rcases List.mem_append.1 h with h | h
      · exact hg e h
      · exact hg' e h

/-! ## The release decision -/

/-- The release decision of the run, once it is made. -/
def decision? (s : Scheduler) : Option ReleaseOutcome := s.engine.bind (·.outcome)

/-- The tag to release, as the readers of the outputs see it. -/
def tag? (s : Scheduler) : Option Value := s.run.outputs.peek? runScope "release_tag"

/-- A release has been decided on, and its tag is published. -/
def Releases (s : Scheduler) : Prop :=
  ∃ o, s.decision? = some o ∧ o.decision = .release ∧ s.tag?.isSome = true

/-- The source that the run decides by may give this outcome. -/
def Offers (s : Scheduler) (o : ReleaseOutcome) : Prop :=
  ∃ e n, s.engine = some e ∧ ({ e with reads := n } : ReleaseEngine).readSource = .ok o

/-- What the source may give depends on nothing but the source. -/
theorem Offers.of_source {o : ReleaseOutcome} (h : t.Offers o)
    (hs : t.engine.map (·.source) = s.engine.map (·.source)) : s.Offers o := by
  obtain ⟨e, n, he, hread⟩ := h
  rw [he] at hs
  rcases hengine : s.engine with _ | e'
  · rw [hengine] at hs
    cases hs
  · rw [hengine] at hs
    have hsame : e'.source = e.source := (Option.some.inj hs).symm
    refine ⟨e', n, hengine, ?_⟩
    rw [← hread, ReleaseEngine.readSource, ReleaseEngine.readSource]
    dsimp only
    rw [hsame]

/-- What a release decision makes of the engine, the journal and the outputs of the run. One that was
made stays; the first one is given by the source and written down, and its tag is published. -/
structure Decides (s : Scheduler) (engine : Option ReleaseEngine) (notes : List Effect)
    (outputs : OutputStore) : Prop where
  quiet : ∀ e ∈ notes, e.isQuiet = true
  kept : ∀ o, s.decision? = some o → engine = s.engine
  source : engine.map (·.source) = s.engine.map (·.source)
  made : ∀ o, engine.bind (·.outcome) = some o →
    s.decision? = some o ∨ s.Offers o ∧ .journal (.release s.run.id o) ∈ notes
  noted : ∀ id o, .journal (.release id o) ∈ notes →
    id = s.run.id ∧ engine.bind (·.outcome) = some o
  outputs : outputs = s.run.outputs ∨ ∃ o, engine.bind (·.outcome) = some o ∧
    o.decision = .release ∧ s.tag? = none ∧
    s.run.outputs.write runScope "release_tag" (.text o.tag) = .ok outputs

/-- The journal is written only for the first decision. -/
theorem write_decision (s : Scheduler) (old new : ReleaseEngine) (o : ReleaseOutcome) :
    ∃ notes, notes = (if old.outcome.isNone then [.journal (.release s.run.id o)] else []) ∧
      (if old.outcome.isNone then
        Scheduler.write { s with engine := some new } (.release s.run.id o)
        else { s with engine := some new }) =
      { s with engine := some new, effects := s.effects ++ notes } := by
  refine ⟨_, rfl, ?_⟩
  split
  · rfl
  · simp

/-- What an engine that has not decided gives was read at the source. -/
theorem decides_of_decide {engine engine' : ReleaseEngine} {o : ReleaseOutcome}
    {outputs : OutputStore} (he : s.engine = some engine) (hd : engine.decide = (.ok o, engine'))
    (ho : outputs = s.run.outputs ∨ o.decision = .release ∧ s.tag? = none ∧
      s.run.outputs.write runScope "release_tag" (.text o.tag) = .ok outputs) :
    Decides s (some engine')
      (if engine.outcome.isNone then [.journal (.release s.run.id o)] else []) outputs := by
  have hout : (some engine').bind (·.outcome) = some o := ReleaseEngine.outcome_of_decide hd
  have hdecision : s.decision? = engine.outcome := by rw [decision?, he]; rfl
  refine ⟨?_, ?_, ?_, ?_, ?_, ?_⟩
  · intro e hm
    split at hm
    · rw [List.mem_singleton.1 hm]; rfl
    · cases hm
  · intro o' ho'
    rw [ReleaseEngine.decide_of_outcome (hdecision ▸ ho')] at hd
    cases hd
    exact he.symm
  · rw [he]
    exact congrArg some (ReleaseEngine.source_of_decide hd)
  · intro o' ho'
    obtain rfl : o = o' := Option.some.inj (hout.symm.trans ho')
    rcases hfirst : engine.outcome with _ | o'
    · refine Or.inr ⟨⟨engine, engine.reads, he, ReleaseEngine.read_of_decide hfirst hd⟩, ?_⟩
      simp
    · rw [ReleaseEngine.decide_of_outcome hfirst] at hd
      cases hd
      exact Or.inl (hdecision.trans hfirst)
  · intro id o' hm
    split at hm
    · cases List.mem_singleton.1 hm
      exact ⟨rfl, hout⟩
    · cases hm
  · rcases ho with ho | ⟨hrel, hnone, hw⟩
    · exact Or.inl ho
    · exact Or.inr ⟨o, hout, hrel, hnone, hw⟩

/-- What a release decision makes of the scheduler: only the engine, the tag among the outputs of
the run and the journal change. -/
theorem decideRelease_eq (s : Scheduler) :
    ∃ engine notes outputs,
      s.decideRelease.2 = { s with
        engine, effects := s.effects ++ notes, run := { s.run with outputs } } ∧
      Decides s engine notes outputs := by
  unfold decideRelease
  split
  · exact ⟨s.engine, [], s.run.outputs, by simp, by simp, fun _ _ => rfl, rfl,
      fun o ho => Or.inl ho, by simp, Or.inl rfl⟩
  · rename_i engine hengine
    rcases hd : engine.decide with ⟨answer, engine'⟩
    rcases answer with fault | outcome
    · obtain ⟨hnone, hnone', _⟩ := ReleaseEngine.decide_of_error hd
      have hdecision : s.decision? = none := by rw [decision?, hengine]; exact hnone
      refine ⟨some engine', [], s.run.outputs, by simp, by simp, fun o ho => ?_, ?_,
        fun o ho => ?_, by simp, Or.inl rfl⟩
      · rw [hdecision] at ho; cases ho
      · rw [hengine]; exact congrArg some (ReleaseEngine.source_of_decide hd)
      · rw [show (some engine').bind (·.outcome) = none from hnone'] at ho; cases ho
    · dsimp only
      obtain ⟨notes, hnotes, hw⟩ := write_decision s engine engine' outcome
      have hdecides : ∀ outputs, (outputs = s.run.outputs ∨ outcome.decision = .release ∧
          s.tag? = none ∧
          s.run.outputs.write runScope "release_tag" (.text outcome.tag) = .ok outputs) →
          Decides s (some engine') notes outputs :=
        fun _ ho => hnotes ▸ decides_of_decide hengine hd ho
      rw [hw]
      split
      · rename_i hcond
        simp only [Bool.and_eq_true, decide_eq_true_eq, Option.isNone_iff_eq_none] at hcond
        split
        · rename_i outputs ho
          exact ⟨some engine', notes, outputs, rfl,
            hdecides _ (Or.inr ⟨hcond.1, hcond.2, ho⟩)⟩
        · exact ⟨some engine', notes, s.run.outputs, rfl, hdecides _ (Or.inl rfl)⟩
      · exact ⟨some engine', notes, s.run.outputs, rfl, hdecides _ (Or.inl rfl)⟩

/-- An answer is the decision of the run from then on. -/
theorem decision_of_decideRelease {o : ReleaseOutcome} (h : s.decideRelease = (.ok o, t)) :
    t.decision? = some o := by
  unfold decideRelease at h
  split at h
  · cases h
  · rename_i engine hengine
    rcases hd : engine.decide with ⟨answer, engine'⟩
    rw [hd] at h
    rcases answer with fault | outcome
    · cases h
    · have hout : (some engine').bind (·.outcome) = some outcome :=
        ReleaseEngine.outcome_of_decide hd
      dsimp only at h
      obtain ⟨notes, _, hw⟩ := write_decision s engine engine' outcome
      rw [hw] at h
      split at h
      · split at h
        · cases h
          exact hout
        · cases h
      · cases h
        exact hout

/-- When the answer is to release, the decision is made and its tag is published. -/
theorem releases_of_decideRelease {o : ReleaseOutcome} (h : s.decideRelease = (.ok o, t))
    (ho : o.decision = .release) : t.Releases := by
  refine ⟨o, decision_of_decideRelease h, ho, ?_⟩
  unfold decideRelease at h
  split at h
  · cases h
  · rename_i engine hengine
    rcases hd : engine.decide with ⟨answer, engine'⟩
    rw [hd] at h
    rcases answer with fault | outcome
    · cases h
    · dsimp only at h
      obtain ⟨notes, _, hw⟩ := write_decision s engine engine' outcome
      rw [hw] at h
      split at h
      · split at h
        · rename_i outputs hwrite
          cases h
          simp [tag?, OutputStore.peek?_write_run hwrite]
        · cases h
      · rename_i hcond
        cases h
        simpa [ho, tag?, ← Option.isSome_iff_ne_none] using hcond

end Scheduler

end GatedPipeline
