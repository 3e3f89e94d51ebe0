-- The changes that a run is made of. A change leaves every instance where it
-- is, or takes one out of the run, or brings one forward; and no change undoes
-- a decision, a gate or an end.
import GatedPipeline.Proofs.Gate.Table
import GatedPipeline.Proofs.Graph.Build
import GatedPipeline.Proofs.Run.Moves
namespace GatedPipeline.Scheduler

variable {s t u : Scheduler} {id : String}

/-! ## What no change undoes -/

/-- The identity is that of a gate of the run. -/
def OwnGate (s : Scheduler) (id : String) : Prop := ∃ name, id = gateId s.run.id name

/-- What every change keeps: the trigger, the graph and the limits of the run, the source of its
release decision, and what is settled or written down. -/
structure Steady (s t : Scheduler) : Prop where
  runId : t.run.id = s.run.id
  trigger : t.run.trigger = s.run.trigger
  workflow : t.run.workflow = s.run.workflow
  graph : t.run.graph = s.run.graph
  maxParallel : t.maxParallel = s.maxParallel
  failFast : t.failFast = s.failFast
  source : t.engine.map (·.source) = s.engine.map (·.source)
  halted : s.halted = true → t.halted = true
  fatal : s.fatal = true → t.fatal = true
  /-- No instance that has ended was moved. -/
  blunder : ∀ {id was next}, t.crash = some (.alreadyEnded id was next) →
    s.crash = some (.alreadyEnded id was next)
  keyed : s.gates.Keyed → t.gates.Keyed
  keeps : GateTable.Keeps s.OwnGate s.gates t.gates
  decision : ∀ {o}, s.decision? = some o → t.decision? = some o
  /-- Once there is a decision, the source is not read again. -/
  settled : ∀ {o}, s.decision? = some o → t.engine = s.engine
  grows : s.effects <+: t.effects
  /-- The first decision is given by the source, and written down. -/
  made : ∀ {o}, t.decision? = some o →
    s.decision? = some o ∨ s.Offers o ∧ .journal (.release s.run.id o) ∈ t.effects
  noted : ∀ {id o}, .journal (.release id o) ∈ t.effects →
    .journal (.release id o) ∈ s.effects ∨ id = s.run.id ∧ t.decision? = some o

theorem Steady.refl (s : Scheduler) : Steady s s where
  runId := rfl
  trigger := rfl
  workflow := rfl
  graph := rfl
  maxParallel := rfl
  failFast := rfl
  source := rfl
  halted := id
  fatal := id
  blunder := id
  keyed := id
  keeps := GateTable.Keeps.refl _ _
  decision := id
  settled := fun _ => rfl
  grows := List.prefix_rfl
  made := Or.inl
  noted := Or.inl

theorem ownGate_congr (h : t.run.id = s.run.id) : t.OwnGate = s.OwnGate := by
  funext id
  simp only [OwnGate, h]

theorem Steady.ownGate (h : Steady s t) : t.OwnGate = s.OwnGate := ownGate_congr h.runId

theorem Steady.trans (h : Steady s t) (h' : Steady t u) : Steady s u where
  runId := h'.runId.trans h.runId
  trigger := h'.trigger.trans h.trigger
  workflow := h'.workflow.trans h.workflow
  graph := h'.graph.trans h.graph
  maxParallel := h'.maxParallel.trans h.maxParallel
  failFast := h'.failFast.trans h.failFast
  source := h'.source.trans h.source
  halted := fun hs => h'.halted (h.halted hs)
  fatal := fun hs => h'.fatal (h.fatal hs)
  blunder := fun hu => h.blunder (h'.blunder hu)
  keyed := fun hs => h'.keyed (h.keyed hs)
  keeps := h.keeps.trans (h.ownGate ▸ h'.keeps)
  decision := fun hs => h'.decision (h.decision hs)
  settled := fun hs => (h'.settled (h.decision hs)).trans (h.settled hs)
  grows := h.grows.trans h'.grows
  made := by
    intro o ho
    rcases h'.made ho with ho | ⟨hoffers, hnote⟩
    · exact (h.made ho).imp_right fun ⟨hoffers, hnote⟩ => ⟨hoffers, h'.grows.subset hnote⟩
    · exact Or.inr ⟨hoffers.of_source h.source, h.runId ▸ hnote⟩
  noted := by
    intro id o ho
    rcases h'.noted ho with ho | ⟨hid, ho⟩
    · exact (h.noted ho).imp_right fun ⟨hid, ho⟩ => ⟨hid, h'.decision ho⟩
    · exact Or.inr ⟨hid.trans h.runId, ho⟩

/-- A note that is no release decision is none that was added. -/
theorem noted_of_plain {notes : List Effect} {runId : String} {o : ReleaseOutcome}
    (h : ∀ e ∈ notes, e.isPlain = true)
    (hm : .journal (.release runId o) ∈ s.effects ++ notes) :
    .journal (.release runId o) ∈ s.effects := by
  rcases List.mem_append.1 hm with hm | hm
  · exact hm
  · have := h _ hm
    cases this

theorem Steady.unaborted (h : Steady s t) (ht : t.fatal = false) : s.fatal = false := by
  rcases hs : s.fatal with _ | _
  · rfl
  · rw [h.fatal hs] at ht
    exact ht

theorem unaborted_of_going (h : s.halted = false) : s.fatal = false :=
  (Bool.or_eq_false_iff.1 h).1

/-- What becomes of the outputs once a decision is settled: nothing new is staged, nothing of an
instance is published, and only the tag of a release may come. -/
structure Shows (settled : Option ReleaseOutcome) (o o' : OutputStore) : Prop where
  staged : ∀ q, o.stagedOf q = [] → o'.stagedOf q = []
  published : ∀ q, q ≠ runScope → o'.publishedOf q = o.publishedOf q
  tag : o'.peek? runScope "release_tag" = o.peek? runScope "release_tag" ∨
    ∃ outcome, settled = some outcome ∧ outcome.decision = .release ∧
      o'.peek? runScope "release_tag" = some (.text outcome.tag)
  scope : ∀ k, k ≠ "release_tag" → o'.peek? runScope k = o.peek? runScope k
  written : (runScope, "release_tag") ∈ o'.written → (runScope, "release_tag") ∈ o.written ∨
    (o'.peek? runScope "release_tag").isSome = true
  unwritten : ∀ q k, q ≠ runScope → (q, k) ∈ o'.written → (q, k) ∈ o.written

theorem shows_refl (settled : Option ReleaseOutcome) (o : OutputStore) : Shows settled o o :=
  ⟨fun _ h => h, fun _ _ => rfl, Or.inl rfl, fun _ _ => rfl, Or.inl, fun _ _ _ h => h⟩

/-- The tag of a release stays. -/
theorem Shows.tag_isSome {settled : Option ReleaseOutcome} {o o' : OutputStore}
    (h : Shows settled o o') (ho : (o.peek? runScope "release_tag").isSome = true) :
    (o'.peek? runScope "release_tag").isSome = true := by
  rcases h.tag with he | ⟨_, _, _, he⟩
  · exact (congrArg Option.isSome he).trans ho
  · exact congrArg Option.isSome he

/-! ## No instance moves -/

/-- Every instance stays where it is, and every body in flight is waited for. -/
structure Aside (s t : Scheduler) : Prop extends Steady s t where
  stages : t.run.stages = s.run.stages
  inFlight : t.inFlight.Sublist s.inFlight
  running : ∀ {id}, s.state id = .running → id ∈ s.inFlight → id ∈ t.inFlight
  awaiting : t.awaiting = s.awaiting
  dispatched : t.dispatched = s.dispatched
  effects : ∃ notes, t.effects = s.effects ++ notes ∧ ∀ e ∈ notes, e.isQuiet = true
  ended : t.run.outputs.ended = s.run.outputs.ended
  outputs : Shows t.decision? s.run.outputs t.run.outputs

theorem Aside.state (h : Aside s t) (id : String) : t.state id = s.state id :=
  state_congr h.stages id

theorem Aside.trans (h : Aside s t) (h' : Aside t u) : Aside s u where
  toSteady := h.toSteady.trans h'.toSteady
  stages := h'.stages.trans h.stages
  inFlight := h'.inFlight.trans h.inFlight
  running := fun hr hm => h'.running ((h.state _).trans hr) (h.running hr hm)
  awaiting := h'.awaiting.trans h.awaiting
  dispatched := h'.dispatched.trans h.dispatched
  effects := by
    obtain ⟨notes, he, hq⟩ := h.effects
    obtain ⟨notes', he', hq'⟩ := h'.effects
    refine ⟨notes ++ notes', by rw [he', he, List.append_assoc], ?_⟩
    intro e hm
    exact (List.mem_append.1 hm).elim (hq e) (hq' e)
  ended := h'.ended.trans h.ended
  outputs := by
    refine ⟨fun q hq => h'.outputs.staged q (h.outputs.staged q hq),
      fun q hq => (h'.outputs.published q hq).trans (h.outputs.published q hq), ?_,
      fun k hk => (h'.outputs.scope k hk).trans (h.outputs.scope k hk), fun hw =>
        (h'.outputs.written hw).elim (fun hw => (h.outputs.written hw).imp_right
          h'.outputs.tag_isSome) Or.inr,
      fun q k hq hw => h.outputs.unwritten q k hq (h'.outputs.unwritten q k hq hw)⟩
    rcases h'.outputs.tag with he' | ht'
    · rw [he']
      refine h.outputs.tag.imp_right ?_
      rintro ⟨o, ho, hr, ht⟩
      exact ⟨o, h'.decision ho, hr, ht⟩
    · exact Or.inr ht'

/-- A change to parts that no instance depends on. -/
theorem aside_of_rest (h : t = { s with
    run := { s.run with
      errors := t.run.errors, status := t.run.status, finishedAt := t.run.finishedAt }
    queue := t.queue, bodies := t.bodies, now := t.now, cancelReason := t.cancelReason
    superseded := t.superseded, ended := t.ended }) : Aside s t := by
  rw [h]
  exact { Steady.refl s with
    stages := rfl
    inFlight := List.Sublist.refl _, running := fun _ hm => hm, awaiting := rfl, dispatched := rfl
    effects := ⟨[], by simp, by simp⟩, ended := rfl, outputs := shows_refl _ _ }

theorem aside_refl (s : Scheduler) : Aside s s := aside_of_rest rfl

theorem aside_fatal (s : Scheduler) : Aside s { s with fatal := true } :=
  { aside_refl s with halted := fun _ => rfl, fatal := fun _ => rfl }

theorem aside_crash (s : Scheduler) {c : Crash} (h : ∀ id was next, c ≠ .alreadyEnded id was next) :
    Aside s { s with crash := some c } :=
  { aside_refl s with
    halted := fun _ => by simp [halted]
    blunder := fun hc => absurd (Option.some.inj hc) (h _ _ _) }

theorem aside_effects (s : Scheduler) {notes : List Effect} (h : ∀ e ∈ notes, e.isPlain = true) :
    Aside s { s with effects := s.effects ++ notes } :=
  { aside_refl s with
    effects := ⟨notes, rfl, fun e hm => Effect.isQuiet_of_isPlain (h e hm)⟩
    grows := List.prefix_append _ _, made := Or.inl
    noted := fun hm => Or.inl (noted_of_plain h hm) }

theorem aside_gates (s : Scheduler) {table : GateTable Nat} (hk : s.gates.Keyed → table.Keyed)
    (hs : GateTable.Keeps s.OwnGate s.gates table) : Aside s { s with gates := table } :=
  { aside_refl s with keyed := hk, keeps := hs }

theorem aside_close (s : Scheduler) :
    Aside s { s with run := { s.run with outputs := s.run.outputs.close } } :=
  { aside_refl s with
    ended := rfl
    outputs := ⟨fun _ h => h, fun _ _ => rfl, Or.inl rfl, fun _ _ => rfl, Or.inl,
      fun _ _ _ h => h⟩ }

/-- No body is waited for any more whose instance is not running. -/
theorem aside_forget (h : s.state id ≠ .running) :
    Aside s { s with inFlight := s.inFlight.filter (· ≠ id) } :=
  { aside_refl s with
    inFlight := List.filter_sublist
    running := by
      intro j hj hm
      refine List.mem_filter.2 ⟨hm, ?_⟩
      have hne : j ≠ id := by
        rintro rfl
        exact h hj
      simpa using hne }

theorem aside_decide (s : Scheduler) : Aside s s.decideRelease.2 := by
  obtain ⟨engine, notes, outputs, he, hd⟩ := decideRelease_eq s
  rw [he]
  have hended : outputs.ended = s.run.outputs.ended := by
    rcases hd.outputs with rfl | ⟨o, _, _, _, hw⟩
    · rfl
    · exact (OutputStore.write_ok hw).2.2.1
  have hshows : Shows (engine.bind (·.outcome)) s.run.outputs outputs := by
    rcases hd.outputs with rfl | ⟨o, hdec, hrel, hnone, hw⟩
    · exact shows_refl _ _
    · refine ⟨fun q hq => ?_, fun q hq => ?_, Or.inr ⟨o, hdec, hrel, ?_⟩, fun k hk => ?_,
        fun _ => Or.inr (congrArg Option.isSome (OutputStore.peek?_write_run hw)),
        fun q k hq hm => ?_⟩
      · rw [OutputStore.stagedOf_write hw, if_neg (by simp)]
        exact hq
      · exact OutputStore.publishedOf_write hw (Or.inl hq)
      · exact OutputStore.peek?_write_run hw
      · exact OutputStore.peek?_write_run_ne hw hk
      · rw [(OutputStore.write_ok hw).2.1] at hm
        exact (List.mem_append.1 hm).resolve_right fun he =>
          hq (Prod.mk.inj (List.mem_singleton.1 he)).1
  exact { aside_refl s with
    decision := fun hs => (congrArg (·.bind (·.outcome)) (hd.kept _ hs)).trans hs
    settled := fun hs => hd.kept _ hs, source := hd.source
    grows := List.prefix_append _ _
    made := fun ho => (hd.made _ ho).imp_right fun ⟨hoffers, hnote⟩ =>
      ⟨hoffers, List.mem_append_right _ hnote⟩
    noted := fun hm => (List.mem_append.1 hm).imp_right (hd.noted _ _)
    effects := ⟨notes, rfl, hd.quiet⟩, ended := hended, outputs := hshows }

theorem aside_deliver (s : Scheduler) (notices : List (Nat × Gate)) :
    Aside s (s.deliver notices) := by
  obtain ⟨notes, events, he, hq, _⟩ := deliver_eq s notices
  rw [he]
  exact (aside_effects s hq).trans (aside_of_rest rfl)

/-! ## One instance moves -/

/-- The one instance gets a new record, which is written down and reported. -/
structure Moves (s t : Scheduler) (id : String) (r : StageRecord) (after : List Effect) : Prop
    extends Steady s t where
  present : id ∈ s.run.stages.map (·.1)
  unended : (s.state id).isTerminal = false
  stages : t.run.stages = putPair id r s.run.stages
  effects : t.effects = s.effects ++ .journal (.state s.run.id id r) :: .moved id r :: after

theorem Moves.state {r : StageRecord} {after : List Effect} (h : Moves s t id r after)
    (j : String) : t.state j = if j = id then r.state else s.state j := state_putPair r j h.stages

/-- Only the record of the one instance is another one after a move. -/
theorem Moves.record {r : StageRecord} {after : List Effect} (h : Moves s t id r after)
    (j : String) : t.run.record j = if j = id then r else s.run.record j := by
  simp only [Run.record, h.stages, getPair?_putPair]
  split <;> rfl

/-- A move, made together with a change to other parts. -/
theorem moves_move (s : Scheduler) (inFlight : List String) (awaiting : List (String × String))
    (outputs : OutputStore) (st : State) (error : Option String)
    (hp : id ∈ s.run.stages.map (·.1)) (ho : (s.state id).isTerminal = false) :
    Moves s
      (move { s with inFlight, awaiting, run := { s.run with outputs } } id st error) id
      (movedRecord (s.run.record id) st error s.now) [] := by
  rw [move_of_open (s := { s with inFlight, awaiting, run := { s.run with outputs } }) ho]
  exact { aside_refl s with
    present := hp, unended := ho, stages := rfl, effects := rfl
    grows := List.prefix_append _ _, made := Or.inl
    noted := fun hm => Or.inl (by simpa using hm) }

/-- What a body that reports makes of the outputs before its instance moves: it writes under the name
of its instance, which nobody sees yet unless that is the name of the run. -/
structure Spills (id : String) (o o' : OutputStore) : Prop where
  ended : o'.ended = o.ended
  staged : ∀ q, q ≠ id → o'.stagedOf q = o.stagedOf q
  published : ∀ q, q ≠ id ∨ id ≠ runScope → o'.publishedOf q = o.publishedOf q
  written : ∀ q k, q ≠ id → (q, k) ∈ o'.written → (q, k) ∈ o.written

theorem spills_refl (id : String) (o : OutputStore) : Spills id o o :=
  ⟨rfl, fun _ _ => rfl, fun _ _ => rfl, fun _ _ _ h => h⟩

theorem spills_stageOutputs (i : Instance) (o : OutputStore) (reported : List (String × Value)) :
    Spills i.id o (stageOutputs i o reported).1 :=
  ⟨ended_stageOutputs, fun _ hq => stagedOf_stageOutputs_ne (Or.inl hq),
    fun _ hq => publishedOf_stageOutputs hq, fun _ _ hq hm => mem_written_stageOutputs hm hq⟩

/-- The instance ends without success. -/
structure Loses (s t : Scheduler) (id : String) (r : StageRecord) : Prop
    extends Moves s t id r [] where
  lost : r.state.isLost = true
  inFlight : (s.state id).isWaiting = true ∧ t.inFlight = s.inFlight ∨
    t.inFlight = s.inFlight.filter (· ≠ id)
  awaiting : t.awaiting = dropPair id s.awaiting
  dispatched : t.dispatched = s.dispatched
  ended : ∀ q ∈ t.run.outputs.ended, q = id ∨ q ∈ s.run.outputs.ended
  outputs : t.fatal = false → Shows t.decision? s.run.outputs t.run.outputs
  /-- What was staged is dropped, also in a run that was aborted. -/
  spills : ∃ o, Spills id s.run.outputs o ∧ t.run.outputs = o.discard id

/-- An instance that is moved to an end without success is lost, if a body of it is no longer waited
for. What it has staged may have changed before, if the run may not go on. -/
theorem loses_move (s : Scheduler) {inFlight : List String} {outputs : OutputStore} {st : State}
    (error : Option String) (hp : id ∈ s.run.stages.map (·.1))
    (ho : (s.state id).isTerminal = false) (hl : st.isLost = true)
    (hi : (s.state id).isWaiting = true ∧ inFlight = s.inFlight ∨
      inFlight = s.inFlight.filter (· ≠ id))
    (he : Spills id s.run.outputs outputs)
    (hs : s.fatal = false → outputs = s.run.outputs) :
    Loses s (move { s with inFlight, run := { s.run with outputs } } id st error) id
      (movedRecord (s.run.record id) st error s.now) := by
  have hm := moves_move s inFlight s.awaiting outputs st error hp ho
  have ht := State.isTerminal_of_isLost hl
  rw [move_of_open (s := { s with inFlight, run := { s.run with outputs } }) ho] at hm ⊢
  simp only [hl, ht, if_true] at hm ⊢
  refine { hm with lost := hl, inFlight := hi, awaiting := rfl, dispatched := rfl, ended := ?_
                   outputs := ?_, spills := ⟨outputs, he, rfl⟩ }
  · intro q hq
    exact (OutputStore.mem_markEnded hq).imp_right fun hq => he.ended ▸ hq
  · intro hgoing
    rw [hs hgoing]
    refine ⟨fun q hq => ?_, fun q _ => rfl, Or.inl rfl, fun _ _ => rfl, Or.inl, fun _ _ _ h => h⟩
    rw [OutputStore.stagedOf_discard, hq]
    split <;> rfl

/-! ## The run wanes -/

/-- A change after which no instance is nearer to success. -/
inductive Wane (s t : Scheduler) : Prop
  | aside (h : Aside s t)
  | lose {id : String} {r : StageRecord} (h : Loses s t id r)

def Wanes : Scheduler → Scheduler → Prop := Relation.ReflTransGen Wane

theorem Wanes.refl (s : Scheduler) : Wanes s s := Relation.ReflTransGen.refl

theorem Wanes.trans (h : Wanes s t) (h' : Wanes t u) : Wanes s u := Relation.ReflTransGen.trans h h'

theorem Aside.wanes (h : Aside s t) : Wanes s t := Relation.ReflTransGen.single (Wane.aside h)

theorem Loses.wanes {r : StageRecord} (h : Loses s t id r) : Wanes s t :=
  Relation.ReflTransGen.single (Wane.lose h)

theorem Wane.steady (h : Wane s t) : Steady s t := by
  rcases h with ha | hl
  · exact ha.toSteady
  · exact hl.toSteady

theorem Wanes.steady (h : Wanes s t) : Steady s t := by
  induction h with
  | refl => exact Steady.refl s
  | tail _ hw ih => exact ih.trans hw.steady

/-- A waiting instance that is moved to an end without success is lost. -/
theorem wanes_move {st : State} (error : Option String) (hp : id ∈ s.run.stages.map (·.1))
    (hw : (s.state id).isWaiting = true) (hl : st.isLost = true) :
    Wanes s (s.move id st error) :=
  (loses_move s error hp (State.not_isTerminal_of_isWaiting hw) hl (Or.inl ⟨hw, rfl⟩)
    (spills_refl _ _) fun _ => rfl).wanes

theorem wanes_addError (s : Scheduler) (text : String) : Wanes s (s.addError text) :=
  (aside_of_rest rfl).wanes

/-! ## What a change writes down -/

/-- What a change writes down and reports: nothing about instances, or that one of them has come
further, and for one that runs that its body is started. -/
inductive Logs (s t : Scheduler) : Prop
  | still (steady : Steady s t) (stages : t.run.stages = s.run.stages)
      (effects : ∃ notes, t.effects = s.effects ++ notes ∧ ∀ e ∈ notes, e.isQuiet = true)
      (dispatched : t.dispatched = s.dispatched)
      (ended : t.run.outputs.ended = s.run.outputs.ended)
  | moved {id : String} {r : StageRecord} (moves : Moves s t id r [])
      (further : (s.state id).rank < r.state.rank) (waits : r.state ≠ .running)
      (dispatched : t.dispatched = s.dispatched)
      (ended : ∀ q ∈ t.run.outputs.ended, q = id ∧ r.state.isTerminal = true ∨
        q ∈ s.run.outputs.ended)
  | started {id : String} {r : StageRecord} {inputs : List (String × Value)}
      (moves : Moves s t id r [.dispatched id inputs]) (ready : s.state id = .ready)
      (runs : r.state = .running) (dispatched : t.dispatched = s.dispatched + 1)
      (ended : t.run.outputs.ended = s.run.outputs.ended)

theorem Wane.logs (h : Wane s t) : Logs s t := by
  rcases h with ha | @⟨id, r, hl⟩
  · exact .still ha.toSteady ha.stages ha.effects ha.dispatched ha.ended
  · refine .moved hl.toMoves ?_ ?_ hl.dispatched ?_
    · rw [State.rank_of_isLost hl.lost]
      exact State.rank_lt_of_unended hl.unended
    · intro hr
      have hlost := hl.lost
      rw [hr] at hlost
      cases hlost
    · exact fun q hq => (hl.ended q hq).imp_left fun he => ⟨he, State.isTerminal_of_isLost hl.lost⟩

theorem Logs.steady (h : Logs s t) : Steady s t := by
  cases h with
  | still steady => exact steady
  | moved moves => exact moves.toSteady
  | started moves => exact moves.toSteady

/-- An instance that has ended stays as it is, and no instance falls back. -/
theorem Logs.forward (h : Logs s t) (id : String) :
    (s.state id).rank ≤ (t.state id).rank ∧
      ((s.state id).isTerminal = true → t.state id = s.state id) := by
  have hmove : ∀ {j r after}, Moves s t j r after → (s.state j).rank < r.state.rank →
      (s.state id).rank ≤ (t.state id).rank ∧
        ((s.state id).isTerminal = true → t.state id = s.state id) := by
    intro j r after hm hlt
    rw [hm.state]
    split
    · rename_i hid
      subst hid
      refine ⟨Nat.le_of_lt hlt, fun he => ?_⟩
      rw [hm.unended] at he
      cases he
    · exact ⟨Nat.le_refl _, fun _ => rfl⟩
  cases h with
  | still _ stages =>
    rw [state_congr stages]
    exact ⟨Nat.le_refl _, fun _ => rfl⟩
  | moved moves further => exact hmove moves further
  | started moves ready runs => exact hmove moves (by rw [ready, runs]; decide)

/-! ## The frame of a run -/

/-- The run has a sound graph and just its instances, and its outputs take an instance for ended
only if it is. -/
structure Framed (s : Scheduler) : Prop where
  sound : s.graph.Sound
  keys : s.run.stages.map (·.1) = s.graph.ids
  ended : ∀ q ∈ s.run.outputs.ended, (s.state q).isTerminal = true

theorem Framed.present_of_order (h : Framed s) (hid : id ∈ s.graph.order) :
    id ∈ s.run.stages.map (·.1) := by
  rw [h.keys]
  exact h.sound.order_perm.mem_iff.1 hid

theorem Framed.order_of_present (h : Framed s) (hid : id ∈ s.run.stages.map (·.1)) :
    id ∈ s.graph.order := by
  rw [h.keys] at hid
  exact h.sound.order_perm.mem_iff.2 hid

theorem Framed.present (h : Framed s) {i : Instance} (hi : s.graph.instance? id = some i) :
    id ∈ s.run.stages.map (·.1) := by
  rw [h.keys]
  exact key_mem_of_getPair? hi

theorem Framed.id_eq (h : Framed s) {i : Instance} (hi : s.graph.instance? id = some i) :
    i.id = id := h.sound.instance_id hi

/-- The outputs take no instance for ended that has not ended. -/
theorem Framed.unended (h : Framed s) (ho : (s.state id).isTerminal = false) :
    id ∉ s.run.outputs.ended := by
  intro hm
  rw [h.ended id hm] at ho
  cases ho

theorem Framed.ended_of_finished (h : Framed s) (finished : s.run.finished = true)
    (hid : id ∈ s.graph.ids) : (s.state id).isTerminal = true := by
  rw [← h.keys] at hid
  obtain ⟨r, hr⟩ := exists_getPair?_of_key_mem hid
  rw [state_eq_of_getPair? hr]
  exact List.all_eq_true.1 finished (id, r) (mem_of_getPair? hr)

theorem Framed.logs (h : Framed s) (hl : Logs s t) : Framed t := by
  have hg : t.graph = s.graph := hl.steady.graph
  refine ⟨hg ▸ h.sound, ?_, ?_⟩
  · rw [hg, ← h.keys]
    cases hl with
    | still _ stages => rw [stages]
    | moved moves => rw [moves.stages, keys_putPair_of_mem moves.present]
    | started moves => rw [moves.stages, keys_putPair_of_mem moves.present]
  · have hold : ∀ q ∈ s.run.outputs.ended, (t.state q).isTerminal = true := by
      intro q hq
      rw [(hl.forward q).2 (h.ended q hq)]
      exact h.ended q hq
    intro q hq
    cases hl with
    | still _ _ _ _ ended => exact hold q (ended ▸ hq)
    | moved moves _ _ _ ended =>
      rcases ended q hq with ⟨rfl, hr⟩ | hq
      · rwa [moves.state, if_pos rfl]
      · exact hold q hq
    | started _ _ _ _ ended => exact hold q (ended ▸ hq)

theorem Framed.wane (h : Framed s) (hw : Wane s t) : Framed t := h.logs hw.logs

theorem Framed.aside (h : Framed s) (ha : Aside s t) : Framed t := h.wane (.aside ha)

theorem Framed.rest (h : Framed s) (events : List Event) : Framed { s with queue := events } :=
  h.aside (aside_of_rest rfl)

theorem Framed.wanes (h : Framed s) (hw : Wanes s t) : Framed t := by
  induction hw with
  | refl => exact h
  | tail _ hw ih => exact ih.wane hw

/-! ## Cancelling -/

theorem wanes_cancelOne (h : Framed s) (hid : id ∈ s.graph.order) (reason : String) :
    Wanes s (s.cancelOne reason id) := by
  unfold cancelOne
  split
  · exact Wanes.refl s
  · rename_i ho
    have hstop : Aside s (s.stopBody id) := aside_of_rest rfl
    refine hstop.wanes.trans (Loses.wanes (loses_move (s.stopBody id) (some reason) ?_ ?_ rfl
      (Or.inr rfl) (spills_refl _ _) fun _ => rfl))
    · exact (h.aside hstop).present_of_order hid
    · rw [hstop.state]
      simpa using ho

/-- Cancelling some instances, each with the same reason. -/
theorem wanes_cancelEach {ids : List String} (h : Framed s) (hids : ∀ id ∈ ids, id ∈ s.graph.order)
    (reason : String) : Wanes s (ids.foldl (fun s id => s.cancelOne reason id) s) := by
  induction ids generalizing s with
  | nil => exact Wanes.refl s
  | cons id ids ih =>
    have hone := wanes_cancelOne h (hids id List.mem_cons_self) reason
    refine hone.trans (ih (h.wanes hone) ?_)
    intro j hj
    rw [show (s.cancelOne reason id).graph = s.graph from hone.steady.graph]
    exact hids j (List.mem_cons_of_mem _ hj)

theorem wanes_cancelAll (h : Framed s) (reason : String) : Wanes s (s.cancelAll reason) :=
  wanes_cancelEach h (fun _ hid => hid) reason

theorem wanes_abort (h : Framed s) (error : String) : Wanes s (s.abort error) := by
  have hflag := (aside_fatal s).wanes.trans (wanes_addError { s with fatal := true } error)
  exact hflag.trans (wanes_cancelAll (h.wanes hflag) _)

theorem wanes_obeyCancel (h : Framed s) : Wanes s s.obeyCancel := by
  have hflag : ∀ text, Wanes s ({ s with superseded := true }.addError text) :=
    fun _ => (aside_of_rest rfl).wanes
  exact (hflag _).trans (wanes_cancelAll (h.wanes (hflag _)) _)

theorem wanes_afterFailure (h : Framed s) (i : Instance) : Wanes s (s.afterFailure i) := by
  unfold afterFailure
  split
  · exact wanes_cancelAll h _
  · split
    · refine wanes_cancelEach h (fun id hid => ?_) _
      unfold StageGraph.siblings at hid
      split at hid
      · cases hid
      · exact (List.mem_filter.1 hid).1
    · exact Wanes.refl s

end GatedPipeline.Scheduler
