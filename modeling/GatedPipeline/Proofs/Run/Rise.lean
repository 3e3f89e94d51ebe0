-- How an instance comes forward. There are six ways, each with the guards that
-- were checked there and then; all else that the scheduler does wanes.
import GatedPipeline.Proofs.Run.Change
namespace GatedPipeline.Scheduler

variable {s t u e : Scheduler} {id : String} {i : Instance}

/-! ## Looking on -/

/-- Whether the run was aborted, and whether it was cancelled. -/
def flags (s : Scheduler) : Bool × Bool := (s.fatal, s.superseded)

@[simp] theorem flags_move (s : Scheduler) (id : String) (st : State) (error : Option String) :
    (s.move id st error).flags = s.flags := by
  unfold move
  dsimp only
  split <;> rfl

/-- No instance moves, and the run is neither aborted nor cancelled. -/
structure Asks (s t : Scheduler) : Prop extends Aside s t where
  flags : t.flags = s.flags

theorem asks_refl (s : Scheduler) : Asks s s := ⟨aside_refl s, rfl⟩

theorem Asks.trans (h : Asks s t) (h' : Asks t u) : Asks s u :=
  ⟨h.toAside.trans h'.toAside, h'.flags.trans h.flags⟩

/-! ## Six ways forward -/

/-- The gate of that name is one of the run, and it is approved. -/
def Approved (s : Scheduler) (name : String) : Prop :=
  ∃ g, s.gates.get? (gateId s.run.id name) = some g ∧ g.status = .approved

/-- What lets an instance go on: all that it depends on has succeeded, its condition held when it
was asked, and if it releases there is something to release. -/
structure Clears (e s : Scheduler) (i : Instance) : Prop where
  dependencies : ∀ d ∈ s.graph.dependencies i.id, s.state d = .succeeded
  condition : (e.conditionHolds i).1 = .ok true
  release : i.template.release = true → s.Releases

/-- One instance comes forward. The scheduler was in the first state when it began to look at the
instance, and nothing has moved since. -/
inductive Rise (e s : Scheduler) : Scheduler → Prop
  | block {id : String} (present : id ∈ s.run.stages.map (·.1)) (was : s.state id = .pending) :
      Rise e s (s.move id .blocked)
  | ready {i : Instance} (known : s.graph.instance? i.id = some i)
      (was : s.state i.id = .pending ∨ s.state i.id = .blocked) (clears : Clears e s i)
      (gate : ∀ name, i.gateName.filter (· ≠ "") = some name → s.Approved name) :
      Rise e s (s.move i.id .ready)
  | wait {i : Instance} {name : String} {g : Gate} (known : s.graph.instance? i.id = some i)
      (was : s.state i.id = .pending ∨ s.state i.id = .blocked) (clears : Clears e s i)
      (gate : i.gateName.filter (· ≠ "") = some name)
      (asked : s.gates.get? (gateId s.run.id name) = some g) :
      Rise e s ({ s with
        awaiting := putPair i.id (gateId s.run.id name) s.awaiting }.move i.id .ready)
  | pass {id gid : String} {g : Gate} (was : s.state id = .ready)
      (waits : getPair? id s.awaiting = some gid) (known : s.gates.get? gid = some g)
      (approved : g.status = .approved) :
      Rise e s { s with awaiting := dropPair id s.awaiting }
  | start {id : String} {inputs : List (String × Value)} (present : id ∈ s.run.stages.map (·.1))
      (going : s.halted = false) (room : ¬ s.maxParallel ≤ s.inFlight.length)
      (able : s.startable id = true) (gathered : s.gatherInputs id = .ok inputs) :
      Rise e s (s.start id inputs)
  | succeed {i : Instance} {report : BodyReport} {rest : List Event} {o : OutputStore}
      (known : s.graph.instance? i.id = some i) (told : e.queue = .done i.id report :: rest)
      (good : report.status = .succeeded) (was : s.state i.id = .running)
      (wrote : stageOutputs i s.run.outputs report.outputs = (o, none))
      (all : ∀ k ∈ i.template.outputs, (getPair? k (o.stagedOf i.id)).isSome = true) :
      Rise e s (s.complete i.id report)

/-! ## What each way makes of the scheduler -/

/-- A move to a state that is no end. -/
theorem move_of_unended {st : State} {error : Option String} (ho : (s.state id).isTerminal = false)
    (hst : st.isTerminal = false) :
    s.move id st error =
      { s with
        run := { s.run with
          stages := putPair id (movedRecord (s.run.record id) st error s.now) s.run.stages }
        effects := s.effects ++
          [.journal (.state s.run.id id (movedRecord (s.run.record id) st error s.now)),
            .moved id (movedRecord (s.run.record id) st error s.now)] } := by
  have hl : st.isLost = false := by cases st <;> first | rfl | cases hst
  rw [move_of_open ho]
  simp [hst, hl]

theorem start_eq (ho : (s.state id).isTerminal = false) (inputs : List (String × Value)) :
    s.start id inputs =
      { s with
        run := { s.run with
          stages := putPair id (movedRecord (s.run.record id) .running none s.now) s.run.stages }
        effects := s.effects ++
          [.journal (.state s.run.id id (movedRecord (s.run.record id) .running none s.now)),
            .moved id (movedRecord (s.run.record id) .running none s.now),
            .dispatched id inputs]
        bodies := s.bodies ++ [{ id, inputs }]
        inFlight := s.inFlight ++ [id]
        dispatched := s.dispatched + 1 } := by
  rw [start, move_of_unended ho rfl]
  simp [emit]

theorem ready_of_startable (h : s.startable id = true) :
    s.state id = .ready ∧ getPair? id s.awaiting = none := by
  simpa [startable] using h

/-- Starting a body moves its instance. -/
theorem moves_start (present : id ∈ s.run.stages.map (·.1)) (was : s.state id = .ready)
    (inputs : List (String × Value)) :
    Moves s (s.start id inputs) id (movedRecord (s.run.record id) .running none s.now)
      [.dispatched id inputs] := by
  have ho : (s.state id).isTerminal = false := by rw [was]; rfl
  rw [start_eq ho]
  exact { aside_refl s with
    present := present, unended := ho, stages := rfl, effects := rfl
    grows := List.prefix_append _ _, made := Or.inl
    noted := fun hm => Or.inl (by simpa using hm) }

/-- The record of an instance that succeeds with these outputs. -/
def successRecord (s : Scheduler) (id : String) (outputs : List (String × Value)) : StageRecord :=
  movedRecord { s.run.record id with outputs } .succeeded none s.now

/-- What a step makes of a run: it wanes, or one instance comes forward. -/
inductive Changes (s t : Scheduler) : Prop
  | wanes (h : Wanes s t)
  | rises {u : Scheduler} (h : Asks s u) (hr : Rise s u t)

theorem isWaiting_of_was (h : s.state id = .pending ∨ s.state id = .blocked) :
    (s.state id).isWaiting = true := by
  rcases h with h | h <;> rw [h] <;> rfl

/-! ## The end of a body -/

/-- An end without success commutes with the flag that the run may not go on. -/
theorem move_fatal (s : Scheduler) (id : String) (st : State) (error : Option String) :
    { s.move id st error with fatal := true } = { s with fatal := true }.move id st error := by
  unfold move
  dsimp only
  split
  · rfl
  · rfl

/-- A running instance is moved to an end without success, and its body is not waited for. -/
theorem loses_running (hf : Framed s) (hi : s.graph.instance? i.id = some i)
    (was : s.state i.id = .running) {o : OutputStore} (ho : Spills i.id s.run.outputs o)
    (hs : s.fatal = false → o = s.run.outputs) {st : State} (hl : st.isLost = true)
    (error : Option String) :
    Loses s (move { s with
      inFlight := s.inFlight.filter (· ≠ i.id), run := { s.run with outputs := o } }
      i.id st error) i.id (movedRecord (s.run.record i.id) st error s.now) :=
  loses_move s error (hf.present hi) (by rw [was]; rfl) hl (Or.inr rfl) ho hs

/-- A success that breaks the contract of the stage aborts the run. -/
theorem wanes_breach (hf : Framed s) (hi : s.graph.instance? i.id = some i)
    (was : s.state i.id = .running) {o : OutputStore} (ho : Spills i.id s.run.outputs o)
    (text : String) :
    Wanes s ((move { s with
      inFlight := s.inFlight.filter (· ≠ i.id), run := { s.run with outputs := o } }
      i.id .failed text).abort text) := by
  -- the flag is set first: in a run that may not go on it does not count what was staged
  have hflag := aside_fatal s
  have hlost := loses_running (hf.aside hflag) hi (by rwa [hflag.state]) ho (by intro h; cases h)
    (show State.failed.isLost = true from rfl) (some text)
  have hfail := (hflag.wanes.trans hlost.wanes).trans (wanes_addError _ text)
  refine (hfail.trans (wanes_cancelAll (hf.wanes hfail) s!"run aborted: {text}")).trans ?_
  rw [abort, move_fatal]
  exact Wanes.refl _

/-- The report of a running instance is not too late. -/
theorem complete_of_running (hi : s.graph.instance? i.id = some i) (was : s.state i.id = .running)
    (report : BodyReport) :
    s.complete i.id report =
      match report.status with
      | .cancelled => move { s with inFlight := s.inFlight.filter (· ≠ i.id) } i.id .cancelled
          (errorOr report.error "cancelled by executor")
      | .succeeded => succeed { s with inFlight := s.inFlight.filter (· ≠ i.id) } i report.outputs
      | _ => ((move { s with inFlight := s.inFlight.filter (· ≠ i.id) } i.id .failed
          (errorOr report.error "stage failed")).addError
            (s!"[{i.id}] " ++ errorOr report.error "stage failed")).afterFailure i := by
  unfold complete
  dsimp only
  rw [show graph { s with inFlight := s.inFlight.filter (· ≠ i.id) } = s.graph from rfl, hi]
  exact if_neg (not_not.2 was)

/-- The report of an instance that is not running comes too late. -/
theorem complete_of_not_running (was : s.state id ≠ .running) (report : BodyReport) :
    s.complete id report = { s with inFlight := s.inFlight.filter (· ≠ id) } := by
  unfold complete
  dsimp only
  split
  · rfl
  · exact if_pos was

/-- A success publishes what was staged. -/
theorem complete_of_success {report : BodyReport} {o : OutputStore}
    (hi : s.graph.instance? i.id = some i) (was : s.state i.id = .running)
    (good : report.status = .succeeded)
    (wrote : stageOutputs i s.run.outputs report.outputs = (o, none))
    (all : ∀ k ∈ i.template.outputs, (getPair? k (o.stagedOf i.id)).isSome = true) :
    s.complete i.id report =
      { s with
        inFlight := s.inFlight.filter (· ≠ i.id)
        awaiting := dropPair i.id s.awaiting
        run := { s.run with
          stages := putPair i.id (s.successRecord i.id (o.stagedOf i.id)) s.run.stages
          outputs := o.commit i.id }
        effects := s.effects ++
          [.journal (.state s.run.id i.id (s.successRecord i.id (o.stagedOf i.id))),
            .moved i.id (s.successRecord i.id (o.stagedOf i.id))] } := by
  have hnone : i.template.outputs.filter (fun k => (getPair? k (o.stagedOf i.id)).isNone) = [] :=
    List.filter_eq_nil_iff.2 fun k hk => by simpa [Option.isSome_iff_ne_none] using all k hk
  rw [complete_of_running hi was, good]
  simp only [succeed, wrote, hnone]
  rw [move_of_open]
  · simp [State.isLost, State.isTerminal, putPair_putPair, successRecord, Run.record]
  · rw [state_putPair _ _ rfl, if_pos rfl]
    exact (congrArg State.isTerminal was).trans rfl

/-- A success moves its instance. -/
theorem moves_success {report : BodyReport} {o : OutputStore}
    (hp : i.id ∈ s.run.stages.map (·.1)) (hi : s.graph.instance? i.id = some i)
    (was : s.state i.id = .running) (good : report.status = .succeeded)
    (wrote : stageOutputs i s.run.outputs report.outputs = (o, none))
    (all : ∀ k ∈ i.template.outputs, (getPair? k (o.stagedOf i.id)).isSome = true) :
    Moves s (s.complete i.id report) i.id (s.successRecord i.id (o.stagedOf i.id)) [] := by
  rw [complete_of_success hi was good wrote all]
  exact { aside_refl s with
    present := hp, unended := (congrArg State.isTerminal was).trans rfl
    stages := rfl, effects := rfl
    grows := List.prefix_append _ _, made := Or.inl
    noted := fun hm => Or.inl (by simpa using hm) }

/-- What the report of a running instance comes to. -/
inductive Takes (s : Scheduler) (i : Instance) (report : BodyReport) : Scheduler → Prop
  | cancel (error : Option String) (status : report.status = .cancelled) :
      Takes s i report
        (move { s with inFlight := s.inFlight.filter (· ≠ i.id) } i.id .cancelled error)
  | fail (text message : String) (bad : report.status ≠ .succeeded)
      (unasked : report.status ≠ .cancelled) :
      Takes s i report (((move { s with inFlight := s.inFlight.filter (· ≠ i.id) } i.id .failed
        text).addError message).afterFailure i)
  | breach {o : OutputStore} (spills : Spills i.id s.run.outputs o) (text : String) :
      Takes s i report ((move { s with
        inFlight := s.inFlight.filter (· ≠ i.id), run := { s.run with outputs := o } }
        i.id .failed text).abort text)
  | succeed {o : OutputStore} (good : report.status = .succeeded)
      (wrote : stageOutputs i s.run.outputs report.outputs = (o, none))
      (all : ∀ k ∈ i.template.outputs, (getPair? k (o.stagedOf i.id)).isSome = true) :
      Takes s i report (s.complete i.id report)

/-- A body that reports success makes its instance succeed if it wrote all that the stage declares,
and otherwise aborts the run. -/
theorem takes_complete (hf : Framed s) (hi : s.graph.instance? i.id = some i)
    (was : s.state i.id = .running) (report : BodyReport) :
    Takes s i report (s.complete i.id report) := by
  by_cases good : report.status = .succeeded
  case neg =>
    rw [complete_of_running hi was]
    split
    · rename_i hstatus
      exact .cancel _ hstatus
    · contradiction
    · rename_i hcancelled _
      exact .fail _ _ good hcancelled
  case pos =>
    have hended : i.id ∉ s.run.outputs.ended := hf.unended (by rw [was]; rfl)
    rcases hw : stageOutputs i s.run.outputs report.outputs with ⟨o, fault⟩
    have ho : Spills i.id s.run.outputs o := by
      have hspills := spills_stageOutputs i s.run.outputs report.outputs
      rwa [hw] at hspills
    by_cases hall : fault = none ∧ ∀ k ∈ i.template.outputs,
        (getPair? k (o.stagedOf i.id)).isSome = true
    · obtain ⟨rfl, hall⟩ := hall
      exact .succeed good hw hall
    · rw [complete_of_running hi was, good]
      unfold succeed
      simp only [hw]
      rcases fault with _ | fault
      · dsimp only
        split
        · rename_i hnone
          refine absurd ⟨rfl, fun k hk => ?_⟩ hall
          simpa [Option.isSome_iff_ne_none] using List.filter_eq_nil_iff.1 hnone k hk
        · exact .breach ho _
      · obtain ⟨k, rfl⟩ := duplicate_of_stageOutputs hended (by rw [hw])
        exact .breach ho _

theorem Takes.changes {report : BodyReport} {rest : List Event} (hf : Framed s) (he : Asks e s)
    (told : e.queue = .done i.id report :: rest) (hi : s.graph.instance? i.id = some i)
    (was : s.state i.id = .running) (h : Takes s i report t) : Changes e t := by
  cases h with
  | cancel error =>
    exact .wanes (he.wanes.trans (loses_running hf hi was (spills_refl _ _) (fun _ => rfl)
      (show State.cancelled.isLost = true from rfl) error).wanes)
  | fail text message =>
    have hlost := loses_running hf hi was (spills_refl _ _) (fun _ => rfl)
      (show State.failed.isLost = true from rfl) (some text)
    have hfail := hlost.wanes.trans (wanes_addError _ message)
    exact .wanes (he.wanes.trans (hfail.trans (wanes_afterFailure (hf.wanes hfail) i)))
  | breach spills text => exact .wanes (he.wanes.trans (wanes_breach hf hi was spills text))
  | succeed good wrote all => exact .rises he (.succeed hi told good was wrote all)

/-- An instance that has come forward is one of the graph. -/
theorem Framed.instance_of_unpending (hf : Framed s) (h : s.state id ≠ .pending) :
    ∃ i, i.id = id ∧ s.graph.instance? i.id = some i := by
  have hmem := mem_of_state_ne h
  rw [hf.keys] at hmem
  obtain ⟨i, hi⟩ := exists_getPair?_of_key_mem hmem
  obtain rfl := hf.id_eq hi
  exact ⟨i, rfl, hi⟩

theorem changes_complete {report : BodyReport} {rest : List Event} (hf : Framed s) (he : Asks e s)
    (told : e.queue = .done id report :: rest) : Changes e (s.complete id report) := by
  by_cases was : s.state id = .running
  case neg =>
    rw [complete_of_not_running was]
    exact .wanes (he.toAside.trans (aside_forget was)).wanes
  case pos =>
    obtain ⟨i, rfl, hi⟩ := hf.instance_of_unpending (by rw [was]; simp)
    exact (takes_complete hf hi was report).changes hf he told hi was

/-! ## What a way forward writes down -/

/-- A move that is no end and starts no body. -/
theorem logs_of_move {awaiting : List (String × String)} {st : State}
    (hp : id ∈ s.run.stages.map (·.1)) (hlt : (s.state id).rank < st.rank)
    (hst : st.isTerminal = false) (hr : st ≠ .running) :
    Logs s (move { s with awaiting } id st) := by
  have ho := State.unended_of_further hlt
  refine .moved (moves_move s s.inFlight awaiting s.run.outputs st none hp ho) hlt hr ?_ ?_
  · rw [move_of_unended (s := { s with awaiting }) ho hst]
  · rw [move_of_unended (s := { s with awaiting }) ho hst]
    exact fun q hq => Or.inr hq

theorem Rise.logs (hf : Framed s) (h : Rise e s t) : Logs s t := by
  cases h with
  | block present was => exact logs_of_move present (by rw [was]; decide) rfl (by simp)
  | ready known was =>
    refine logs_of_move (hf.present known) ?_ rfl (by simp)
    rcases was with was | was <;> rw [was] <;> decide
  | wait known was =>
    refine logs_of_move (hf.present known) ?_ rfl (by simp)
    rcases was with was | was <;> rw [was] <;> decide
  | pass =>
    exact .still { aside_refl s with } rfl ⟨[], by simp, by simp⟩ rfl rfl
  | @start id inputs present _ _ able =>
    have was := (ready_of_startable able).1
    have heq := start_eq (s := s) (by rw [was]; rfl) inputs
    exact .started (moves_start present was inputs) was rfl (by rw [heq]) (by rw [heq])
  | @succeed i report rest o known told good was wrote all =>
    have hended : o.ended = s.run.outputs.ended := by
      rw [← @ended_stageOutputs i s.run.outputs report.outputs, wrote]
    have heq := complete_of_success known was good wrote all
    refine .moved (moves_success (hf.present known) known was good wrote all)
      (by rw [was]; exact Nat.lt_succ_self 3) (by simp [successRecord, movedRecord])
      (by rw [heq]) fun q hq => ?_
    rw [heq] at hq
    rcases OutputStore.mem_markEnded hq with rfl | hq
    · exact Or.inl ⟨rfl, rfl⟩
    · exact Or.inr (hended ▸ hq)

theorem Framed.rise (h : Framed s) (hr : Rise e s t) : Framed t := h.logs (hr.logs h)

/-- When one instance gets a record that is no success, no instance has succeeded that had not. -/
theorem succeeded_of_putPair {r : StageRecord} (h : t.run.stages = putPair id r s.run.stages)
    (hr : r.state ≠ .succeeded) (j : String) (hj : t.state j = .succeeded) :
    s.state j = .succeeded := by
  rw [state_putPair r j h] at hj
  split at hj
  · exact absurd hj hr
  · exact hj

/-- Who comes forward succeeds, or it does not and leaves the outputs alone. -/
theorem Rise.outputs_or_success (h : Rise e s t) :
    t.run.outputs = s.run.outputs ∧ (∀ j, t.state j = .succeeded → s.state j = .succeeded) ∨
      ∃ (i : Instance) (report : BodyReport) (rest : List Event) (o : OutputStore),
        s.graph.instance? i.id = some i ∧ e.queue = .done i.id report :: rest ∧
        report.status = .succeeded ∧ s.state i.id = .running ∧
        stageOutputs i s.run.outputs report.outputs = (o, none) ∧
        (∀ k ∈ i.template.outputs, (getPair? k (o.stagedOf i.id)).isSome = true) ∧
        t = s.complete i.id report := by
  have hmove : ∀ (awaiting : List (String × String)) {id : String} {st : State},
      (s.state id).isTerminal = false → st.isTerminal = false →
      (move { s with awaiting } id st).run.outputs = s.run.outputs ∧
        ∀ j, (move { s with awaiting } id st).state j = .succeeded → s.state j = .succeeded := by
    intro awaiting id st hopen hst
    have he := @move_of_unended { s with awaiting } id st none hopen hst
    have hne : st ≠ .succeeded := by
      rintro rfl
      cases hst
    exact ⟨by rw [he], succeeded_of_putPair (by rw [he]) hne⟩
  cases h with
  | block _ was => exact Or.inl (hmove s.awaiting (by rw [was]; rfl) rfl)
  | ready _ was =>
    exact Or.inl (hmove s.awaiting (State.not_isTerminal_of_isWaiting (isWaiting_of_was was)) rfl)
  | wait _ was =>
    exact Or.inl (hmove _ (State.not_isTerminal_of_isWaiting (isWaiting_of_was was)) rfl)
  | pass => exact Or.inl ⟨rfl, fun _ hj => hj⟩
  | @start id inputs _ _ _ able =>
    have he := start_eq (s := s) (by rw [(ready_of_startable able).1]; rfl) inputs
    refine Or.inl ⟨by rw [he], succeeded_of_putPair (by rw [he]) ?_⟩
    simp [movedRecord]
  | @succeed i report rest o known told good was wrote all =>
    exact Or.inr ⟨i, report, rest, o, known, told, good, was, wrote, all, rfl⟩

end GatedPipeline.Scheduler
