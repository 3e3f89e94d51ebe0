-- The steps of a run, and what a run is made of. The steps are finer than the
-- turns of the scheduler: others may decide gates, end bodies or ask for a
-- cancellation between any two looks at an instance. Every turn is a chain of
-- steps, so what holds along all chains holds of every run.
import GatedPipeline.Proofs.Run.Visit
namespace GatedPipeline.Scheduler

variable {s t u : Scheduler} {id : String}

/-! ## Steps -/

/-- A step of a run. The first ones are the scheduler's own, the others are taken by those around
it. Steps after the end of the run are not ruled out. -/
inductive Step (s : Scheduler) : Scheduler → Prop
  | obey (asked : s.cancelReason.isSome = true) (first : s.superseded = false) :
      Step s s.obeyCancel
  | take {e : Event} {rest : List Event} (next : s.queue = e :: rest) :
      Step s ({ s with queue := rest }.handle e)
  | expire {span : Time} (limit : s.gateTimeout = some span) (gid : String) :
      Step s (s.expireGate span gid)
  | visit (going : s.halted = false) (id : String) : Step s (s.visit id).2
  | start {id : String} {inputs : List (String × Value)} (going : s.halted = false)
      (room : ¬ s.maxParallel ≤ s.inFlight.length) (able : s.startable id = true)
      (gathered : s.gatherInputs id = .ok inputs) : Step s (s.start id inputs)
  | starve {id producer key : String} (going : s.halted = false) (able : s.startable id = true)
      (missing : s.gatherInputs id = .error (.missing producer key)) :
      Step s (s.abort (OutputFault.missing producer key).message)
  | breakOff {id : String} {fault : OutputFault} (going : s.halted = false)
      (able : s.startable id = true) (failed : s.gatherInputs id = .error fault) :
      Step s { s with crash := some (.output fault) }
  | stall (unfinished : s.run.finished = false) (idle : s.stalled = true) :
      Step s (s.abort s.stalledMessage)
  | finish : Step s s.finish
  | refuse (noWorkers : s.maxParallel ≤ 0) :
      Step s { s with crash := some .noWorkers, ended := true }
  | giveUp : Step s { s with crash := some .interrupted }
  /-- Someone asks for the run to be cancelled. -/
  | cancel (reason : String) : Step s (s.cancel reason)
  /-- A body ends and reports what it likes, even one that was told to stop. -/
  | report (id : String) (r : BodyReport) :
      Step s ({ s with bodies := s.bodies.filter (·.id ≠ id) }.push (.done id r))
  /-- Someone does something with the gate table, and the scheduler hears of it or does not. -/
  | gates {table : GateTable Nat} {notices : List (Nat × Gate)}
      (touched : GateTable.Touched s.run.id s.gates table notices) (heard : List (Nat × Gate)) :
      Step s ({ s with gates := table }.deliver heard)
  | clock (now : Time) : Step s { s with now }
  /-- Someone asks which instances are ready, and a condition asks for the release decision. -/
  | decide : Step s s.decideRelease.2

/-- The steps of a run from one moment to another. -/
def Leads : Scheduler → Scheduler → Prop := Relation.ReflTransGen Step

theorem Leads.refl (s : Scheduler) : Leads s s := Relation.ReflTransGen.refl

theorem Leads.trans (h : Leads s t) (h' : Leads t u) : Leads s u := Relation.ReflTransGen.trans h h'

theorem Leads.snoc (h : Leads s t) (h' : Step t u) : Leads s u := Relation.ReflTransGen.tail h h'

theorem Step.leads (h : Step s t) : Leads s t := Relation.ReflTransGen.single h

/-! ## The work of a run -/

/-- What happens to a run short of its end, if nobody else is at the gate table: a step that the
scheduler takes itself, or something that it is told. -/
inductive Work (s : Scheduler) : Scheduler → Prop
  | obey (asked : s.cancelReason.isSome = true) (first : s.superseded = false) :
      Work s s.obeyCancel
  | take {e : Event} {rest : List Event} (next : s.queue = e :: rest) :
      Work s ({ s with queue := rest }.handle e)
  | expire {span : Time} (limit : s.gateTimeout = some span) (gid : String) :
      Work s (s.expireGate span gid)
  | visit (going : s.halted = false) (id : String) : Work s (s.visit id).2
  | start {id : String} {inputs : List (String × Value)} (going : s.halted = false)
      (room : ¬ s.maxParallel ≤ s.inFlight.length) (able : s.startable id = true)
      (gathered : s.gatherInputs id = .ok inputs) : Work s (s.start id inputs)
  | starve {id producer key : String} (going : s.halted = false) (able : s.startable id = true)
      (missing : s.gatherInputs id = .error (.missing producer key)) :
      Work s (s.abort (OutputFault.missing producer key).message)
  | breakOff {id : String} {fault : OutputFault} (going : s.halted = false)
      (able : s.startable id = true) (failed : s.gatherInputs id = .error fault) :
      Work s { s with crash := some (.output fault) }
  | stall (unfinished : s.run.finished = false) (idle : s.stalled = true) :
      Work s (s.abort s.stalledMessage)
  | giveUp : Work s { s with crash := some .interrupted }
  | cancel (reason : String) : Work s (s.cancel reason)
  | report (id : String) (r : BodyReport) :
      Work s ({ s with bodies := s.bodies.filter (·.id ≠ id) }.push (.done id r))
  | clock (now : Time) : Work s { s with now }
  | decide : Work s s.decideRelease.2

theorem Work.step (h : Work s t) : Step s t := by
  cases h with
  | obey asked first => exact .obey asked first
  | take next => exact .take next
  | expire limit gid => exact .expire limit gid
  | visit going id => exact .visit going id
  | start going room able gathered => exact .start going room able gathered
  | starve going able missing => exact .starve going able missing
  | breakOff going able failed => exact .breakOff going able failed
  | stall unfinished idle => exact .stall unfinished idle
  | giveUp => exact .giveUp
  | cancel reason => exact .cancel reason
  | report id r => exact .report id r
  | clock now => exact .clock now
  | decide => exact .decide

/-- The work of a run from one moment to another. -/
def Works : Scheduler → Scheduler → Prop := Relation.ReflTransGen Work

theorem Works.refl (s : Scheduler) : Works s s := Relation.ReflTransGen.refl

theorem Works.trans (h : Works s t) (h' : Works t u) : Works s u := Relation.ReflTransGen.trans h h'

theorem Works.snoc (h : Works s t) (h' : Work t u) : Works s u := Relation.ReflTransGen.tail h h'

theorem Work.works (h : Work s t) : Works s t := Relation.ReflTransGen.single h

theorem Works.leads (h : Works s t) : Leads s t := by
  induction h with
  | refl => exact Leads.refl s
  | tail _ h ih => exact ih.snoc h.step

/-- The work that the scheduler does itself, with what it answers: the work of a run but for what
others tell it. -/
inductive Own (s : Scheduler) : Scheduler → Prop
  | obey (asked : s.cancelReason.isSome = true) (first : s.superseded = false) :
      Own s s.obeyCancel
  | take {e : Event} {rest : List Event} (next : s.queue = e :: rest) :
      Own s ({ s with queue := rest }.handle e)
  | expire {span : Time} (limit : s.gateTimeout = some span) (gid : String) :
      Own s (s.expireGate span gid)
  | visit (going : s.halted = false) (id : String) : Own s (s.visit id).2
  | start {id : String} {inputs : List (String × Value)} (going : s.halted = false)
      (room : ¬ s.maxParallel ≤ s.inFlight.length) (able : s.startable id = true)
      (gathered : s.gatherInputs id = .ok inputs) : Own s (s.start id inputs)
  | starve {id producer key : String} (going : s.halted = false) (able : s.startable id = true)
      (missing : s.gatherInputs id = .error (.missing producer key)) :
      Own s (s.abort (OutputFault.missing producer key).message)
  | breakOff {id : String} {fault : OutputFault} (going : s.halted = false)
      (able : s.startable id = true) (failed : s.gatherInputs id = .error fault) :
      Own s { s with crash := some (.output fault) }
  | stall (unfinished : s.run.finished = false) (idle : s.stalled = true) :
      Own s (s.abort s.stalledMessage)
  | giveUp : Own s { s with crash := some .interrupted }
  | decide : Own s s.decideRelease.2

theorem Own.work (h : Own s t) : Work s t := by
  cases h with
  | obey asked first => exact .obey asked first
  | take next => exact .take next
  | expire limit gid => exact .expire limit gid
  | visit going id => exact .visit going id
  | start going room able gathered => exact .start going room able gathered
  | starve going able missing => exact .starve going able missing
  | breakOff going able failed => exact .breakOff going able failed
  | stall unfinished idle => exact .stall unfinished idle
  | giveUp => exact .giveUp
  | decide => exact .decide

/-- The scheduler's own work from one moment to another. -/
def Owns : Scheduler → Scheduler → Prop := Relation.ReflTransGen Own

theorem Owns.refl (s : Scheduler) : Owns s s := Relation.ReflTransGen.refl

theorem Owns.trans (h : Owns s t) (h' : Owns t u) : Owns s u := Relation.ReflTransGen.trans h h'

theorem Owns.snoc (h : Owns s t) (h' : Own t u) : Owns s u := Relation.ReflTransGen.tail h h'

theorem Own.owns (h : Own s t) : Owns s t := Relation.ReflTransGen.single h

theorem Owns.works (h : Owns s t) : Works s t := by
  induction h with
  | refl => exact Works.refl s
  | tail _ h ih => exact ih.snoc h.work

theorem Owns.leads (h : Owns s t) : Leads s t := h.works.leads

/-! ## What a step changes -/

theorem aside_cleanUp (s : Scheduler) : Aside s s.cleanUp := by
  have hclosed : Aside s { s with gates := (s.gates.closeRun s.run.id s.now).table } :=
    aside_gates s (GateTable.keyed_closeRun _ _) (GateTable.keeps_closeRun _ _ _)
  have htold := hclosed.trans (aside_deliver _ (s.gates.closeRun s.run.id s.now).notices)
  unfold cleanUp
  dsimp only
  generalize ({ s with gates := (s.gates.closeRun s.run.id s.now).table }.deliver
    (s.gates.closeRun s.run.id s.now).notices) = v at htold ⊢
  have hleft : Aside v { v with gates := v.gates.unsubscribe v.self } :=
    aside_gates v id (GateTable.Keeps.refl _ _)
  refine (htold.trans hleft).trans ?_
  have hshut : ∀ w : Scheduler, ∀ bodies, Aside w
      { w with effects := w.effects ++ [.shutdown (!(v.superseded || v.fatal)) bodies] } :=
    fun w _ => aside_effects w (by simp [Effect.isPlain, Effect.isQuiet])
  exact ((hshut _ _).trans (aside_close _)).trans (aside_of_rest rfl)

/-- The end of a run leaves it as broken or as whole as it is, and with the same final status. -/
theorem cleanUp_spec (s : Scheduler) :
    s.cleanUp.crash = s.crash ∧ s.cleanUp.finalStatus = s.finalStatus := by
  obtain ⟨notes, events, he, _⟩ := deliver_eq
    { s with gates := (s.gates.closeRun s.run.id s.now).table }
    (s.gates.closeRun s.run.id s.now).notices
  unfold cleanUp
  dsimp only
  rw [he]
  exact ⟨rfl, rfl⟩

theorem crash_finish (s : Scheduler) : s.finish.crash = s.crash := by
  unfold finish
  dsimp only
  split <;> exact s.cleanUp_spec.1

/-- The end of a run that did not break off writes the status that its instances give. -/
theorem status_finish (whole : s.crash = none) : s.finish.run.status = s.finalStatus := by
  obtain ⟨hcrash, hstatus⟩ := s.cleanUp_spec
  unfold finish
  dsimp only
  rw [hcrash, whole, ← hstatus]
  rfl

theorem aside_finish (s : Scheduler) : Aside s s.finish := by
  have hclean := aside_cleanUp s
  unfold finish
  dsimp only
  split
  · exact hclean.trans (aside_of_rest rfl)
  · refine (hclean.trans (aside_of_rest (t := { s.cleanUp with
      run := { s.cleanUp.run with
        status := s.cleanUp.finalStatus, finishedAt := some s.cleanUp.now }
      ended := true }) rfl)).trans ?_
    exact aside_effects _ (by simp [Effect.isPlain, Effect.isQuiet])

theorem aside_expireGate (s : Scheduler) (span : Time) (gid : String) :
    Aside s (s.expireGate span gid) := by
  unfold expireGate
  split
  · exact aside_crash s (by simp)
  · split
    · split
      · rename_i change hc
        exact (aside_gates s (fun hk => GateTable.keyed_decideAs _ hk hc)
          (GateTable.keeps_decideAs _ _ hc)).trans (aside_deliver _ _)
      · exact aside_crash s (by simp)
    · exact aside_refl s

theorem Step.changes (hf : Framed s) (hk : s.gates.Keyed) (h : Step s t) : Changes s t := by
  cases h with
  | obey => exact .wanes (wanes_obeyCancel hf)
  | @take e rest next =>
    have hpop : Asks s { s with queue := rest } := ⟨aside_of_rest rfl, rfl⟩
    cases e with
    | done id report => exact changes_complete (hf.aside hpop.toAside) hpop next
    | gate | wake => exact .wanes hpop.wanes
  | expire _ gid => exact .wanes (aside_expireGate s _ gid).wanes
  | visit _ id => exact changes_visit hf hk id
  | start going room able gathered =>
    refine .rises (asks_refl s) (.start (mem_of_state_ne ?_) going room able gathered)
    rw [(ready_of_startable able).1]
    simp
  | starve => exact .wanes (wanes_abort hf _)
  | breakOff => exact .wanes (aside_crash s (by simp)).wanes
  | stall => exact .wanes (wanes_abort hf _)
  | finish => exact .wanes (aside_finish s).wanes
  | refuse => exact .wanes ((aside_crash s (by simp)).trans (aside_of_rest rfl)).wanes
  | giveUp => exact .wanes (aside_crash s (by simp)).wanes
  | cancel reason => exact .wanes (aside_of_rest rfl).wanes
  | report id r => exact .wanes (aside_of_rest rfl).wanes
  | gates touched heard =>
    exact .wanes ((aside_gates s touched.keyed touched.keeps).trans (aside_deliver _ heard)).wanes
  | clock now => exact .wanes (aside_of_rest rfl).wanes
  | decide => exact .wanes (aside_decide s).wanes

/-! ## What every change keeps, a run keeps -/

theorem Wanes.keeps {P : Scheduler → Prop} (hf : Framed s) (h : Wanes s t) (hP : P s)
    (wane : ∀ u v, Framed u → P u → Wane u v → P v) : P t := by
  induction h with
  | refl => exact hP
  | @tail u v hu hv ih => exact wane u v (hf.wanes hu) ih hv

theorem Step.keeps {P : Scheduler → Prop} (hf : Framed s) (hk : s.gates.Keyed) (h : Step s t)
    (hP : P s) (wane : ∀ u v, Framed u → P u → Wane u v → P v)
    (rise : ∀ e u v, Framed u → P u → Rise e u v → P v) : P t := by
  rcases h.changes hf hk with hw | @⟨u, ha, hr⟩
  · exact hw.keeps hf hP wane
  · exact rise s u t (hf.aside ha.toAside) (wane s u hf hP (.aside ha.toAside)) hr

theorem Step.framed (hf : Framed s) (hk : s.gates.Keyed) (h : Step s t) :
    Framed t ∧ t.gates.Keyed := by
  refine ⟨h.keeps hf hk hf (fun _ _ hu _ hw => hu.wane hw) fun _ _ _ hu _ hr => hu.rise hr, ?_⟩
  exact h.keeps hf hk hk (fun _ _ _ hk hw => hw.steady.keyed hk)
    fun _ _ _ hu hk hr => (hr.logs hu).steady.keyed hk

theorem Leads.framed (hf : Framed s) (hk : s.gates.Keyed) (h : Leads s t) :
    Framed t ∧ t.gates.Keyed := by
  induction h with
  | refl => exact ⟨hf, hk⟩
  | tail _ hstep ih => exact hstep.framed ih.1 ih.2

/-- What holds at the start, and is kept when the run wanes and when an instance comes forward,
holds along the run. -/
theorem Leads.keeps {P : Scheduler → Prop} (hf : Framed s) (hk : s.gates.Keyed) (h : Leads s t)
    (hP : P s) (wane : ∀ u v, Framed u → P u → Wane u v → P v)
    (rise : ∀ e u v, Framed u → P u → Rise e u v → P v) : P t := by
  induction h with
  | refl => exact hP
  | tail hlead hstep ih =>
    obtain ⟨hfu, hku⟩ := Leads.framed hf hk hlead
    exact hstep.keeps hfu hku ih wane rise

/-! ## Every turn is a chain of steps -/

theorem owns_visitAll (ids : List String) (changed : Bool) (hs : s.halted = false) :
    Owns s (visitAll ids changed s).2 := by
  induction ids generalizing s changed with
  | nil => exact Owns.refl s
  | cons id ids ih =>
    unfold visitAll
    have hone : Owns s (s.visit id).2 := (Own.visit hs id).owns
    generalize s.visit id = visited at hone ⊢
    obtain ⟨c, v⟩ := visited
    dsimp only at hone ⊢
    split
    · exact hone
    · rename_i hgoing
      exact hone.trans (ih _ (by simpa using hgoing))

theorem owns_startAll (ids : List String) (changed : Bool) (s : Scheduler) :
    Owns s (startAll ids changed s).2 := by
  induction ids generalizing s changed with
  | nil => exact Owns.refl s
  | cons id ids ih =>
    unfold startAll
    split
    · exact Owns.refl s
    · rename_i hroom
      simp only [Bool.or_eq_true, decide_eq_true_eq, not_or, Bool.not_eq_true] at hroom
      split
      · rename_i able
        split
        · rename_i inputs hi
          exact (Own.start hroom.2 hroom.1 able hi).owns.trans (ih _ _)
        · rename_i hmissing
          exact (Own.starve hroom.2 able hmissing).owns
        · rename_i hfault
          exact (Own.breakOff hroom.2 able hfault).owns
      · exact ih _ s

theorem owns_pass (hs : s.halted = false) : Owns s s.pass.2 := by
  have hvisit := owns_visitAll s.graph.order false hs
  unfold pass
  dsimp only
  split
  · exact hvisit
  · exact hvisit.trans (owns_startAll _ _ _)

theorem owns_passes (n : Nat) (s : Scheduler) : Owns s (passes n s) := by
  induction n generalizing s with
  | zero => exact Owns.refl s
  | succ n ih =>
    unfold passes
    split
    · exact Owns.refl s
    · rename_i hgoing
      have hpass : Owns s s.pass.2 := owns_pass (by simp_all)
      dsimp only
      split
      · exact hpass.trans (ih _)
      · exact hpass

theorem owns_advance (s : Scheduler) : Owns s s.advance := owns_passes _ s

theorem owns_obey (s : Scheduler) :
    Owns s (if s.cancelReason.isSome && !s.superseded then s.obeyCancel else s) := by
  split
  · rename_i hasked
    simp only [Bool.and_eq_true, Bool.not_eq_true'] at hasked
    exact (Own.obey hasked.1 hasked.2).owns
  · exact Owns.refl s

/-- The scheduler goes on by itself, or ends the run. -/
def Runs (s t : Scheduler) : Prop := Owns s t ∨ ∃ u, Owns s u ∧ t = u.finish

theorem Runs.of_owns (h : Owns s t) (h' : Runs t u) : Runs s u :=
  h'.imp h.trans fun ⟨v, hv, hu⟩ => ⟨v, h.trans hv, hu⟩

/-- The run goes on, or it ends. -/
def Goes (s t : Scheduler) : Prop := Works s t ∨ ∃ u, Works s u ∧ t = u.finish

theorem Runs.goes (h : Runs s t) : Goes s t :=
  h.imp Owns.works fun ⟨u, hu, ht⟩ => ⟨u, hu.works, ht⟩

/-- A run that is not over has gone on. -/
theorem Goes.works (h : Goes s t) (going : t.ended = false) : Works s t := by
  rcases h with h | ⟨u, _, rfl⟩
  · exact h
  · unfold finish at going
    dsimp only at going
    split at going <;> cases going

theorem Goes.leads (h : Goes s t) : Leads s t := by
  rcases h with h | ⟨u, hu, rfl⟩
  · exact h.leads
  · exact hu.leads.snoc .finish

/-- The scheduler goes on by itself and ends the run, or not everything has ended. -/
theorem proceed_cases (s : Scheduler) :
    (∃ v, Owns s v ∧ s.proceed = v.finish) ∨
      Owns s s.proceed ∧ s.proceed.run.finished = false := by
  have hobey := owns_obey s
  unfold proceed
  dsimp only
  generalize (if s.cancelReason.isSome && !s.superseded then s.obeyCancel else s) = v at hobey ⊢
  have hadvance := hobey.trans (owns_advance v)
  split
  · exact Or.inl ⟨_, hadvance, rfl⟩
  · rename_i hopen
    have hunfinished : v.advance.run.finished = false := by simp_all
    split
    · rename_i hidle
      exact Or.inl ⟨_, hadvance.snoc (.stall hunfinished hidle), rfl⟩
    · exact Or.inr ⟨hadvance, hunfinished⟩

theorem runs_proceed (s : Scheduler) : Runs s s.proceed := by
  rcases proceed_cases s with hended | ⟨hgoing, _⟩
  · exact Or.inr hended
  · exact Or.inl hgoing

theorem owns_expireGates (s : Scheduler) : Owns s s.expireGates := by
  unfold expireGates
  split
  · exact Owns.refl s
  · rename_i span hspan
    have hfold : ∀ (gids : List String) (v : Scheduler), v.gateTimeout = some span →
        Owns v (gids.foldl (expireGate span) v) := by
      intro gids
      induction gids with
      | nil => exact fun v _ => Owns.refl v
      | cons gid gids ih =>
        intro v hv
        refine (Own.expire hv gid).owns.trans (ih _ ?_)
        unfold expireGate
        split
        · exact hv
        · split
          · split
            · rename_i change _
              obtain ⟨notes, events, he, _⟩ :=
                deliver_eq { v with gates := change.table } change.notices
              rw [he]
              exact hv
            · exact hv
          · exact hv
    exact hfold _ s hspan

/-- A turn takes something in and goes on, or nothing happens. -/
theorem turn_cases (s : Scheduler) : (∃ u, Owns s u ∧ s.turn = u.proceed) ∨ s.turn = s := by
  unfold turn
  split
  · exact Or.inr rfl
  · split
    · rename_i next
      exact Or.inl ⟨_, (Own.take next).owns, rfl⟩
    · split
      · exact Or.inl ⟨_, owns_expireGates s, rfl⟩
      · exact Or.inr rfl

theorem runs_turn (s : Scheduler) : Runs s s.turn := by
  rcases s.turn_cases with ⟨u, hu, hturn⟩ | hturn
  · exact hturn ▸ (runs_proceed u).of_owns hu
  · exact Or.inl (hturn.symm ▸ Owns.refl s)

theorem runs_interrupt (s : Scheduler) : Runs s s.interrupt := by
  unfold interrupt
  split
  · exact Or.inl (Owns.refl s)
  · exact Or.inr ⟨_, Own.giveUp.owns, rfl⟩

theorem goes_proceed (s : Scheduler) : Goes s s.proceed := (runs_proceed s).goes

theorem goes_turn (s : Scheduler) : Goes s s.turn := (runs_turn s).goes

theorem works_endBody (s : Scheduler) (id : String) (script : BodyScript) :
    Works s (s.endBody id script).2 := by
  unfold endBody
  split
  · exact (Work.report id _).works
  · exact Works.refl s

theorem owns_conditionHolds (s : Scheduler) (i : Instance) : Owns s (s.conditionHolds i).2 := by
  have hfacts : Owns s s.releaseFacts.2 := by
    unfold releaseFacts
    have hdecide : Owns s s.decideRelease.2 := (Own.decide).owns
    split
    · exact Owns.refl s
    · split <;> (rename_i heq; rw [heq] at hdecide; exact hdecide)
  unfold conditionHolds
  dsimp only
  split
  · exact hfacts
  · exact Owns.refl s

theorem owns_ready (s : Scheduler) : Owns s s.ready.2 := by
  have hamong : ∀ (ids : List String) (v : Scheduler), Owns v (readyAmong ids v).2 := by
    intro ids
    induction ids with
    | nil => exact Owns.refl
    | cons id ids ih =>
      intro v
      unfold readyAmong
      split
      · exact ih v
      · rename_i i _
        have hholds := owns_conditionHolds v i
        generalize v.conditionHolds i = asked at hholds ⊢
        obtain ⟨_ | holds, w⟩ := asked
        · exact hholds
        · have hrest : Owns v (readyAmong ids w).2 := hholds.trans (ih w)
          dsimp only
          generalize readyAmong ids w = others at hrest ⊢
          obtain ⟨_ | rest, x⟩ := others
          · exact hrest
          · exact hrest
  exact hamong _ s

/-- A run begins by listening to the gate table. -/
theorem begin_eq (h : 0 < s.maxParallel) :
    s.begin = { s with gates := s.gates.subscribe s.self }.proceed := by
  rw [begin, if_neg (Int.not_le.2 h)]

theorem leads_visitAll (ids : List String) (changed : Bool) (hs : s.halted = false) :
    Leads s (visitAll ids changed s).2 := (owns_visitAll ids changed hs).leads

theorem leads_startAll (ids : List String) (changed : Bool) (s : Scheduler) :
    Leads s (startAll ids changed s).2 := (owns_startAll ids changed s).leads

theorem leads_pass (hs : s.halted = false) : Leads s s.pass.2 := (owns_pass hs).leads

theorem leads_advance (s : Scheduler) : Leads s s.advance := (owns_advance s).leads

theorem leads_obey (s : Scheduler) :
    Leads s (if s.cancelReason.isSome && !s.superseded then s.obeyCancel else s) :=
  (owns_obey s).leads

theorem leads_begin (s : Scheduler) : Leads s s.begin := by
  have hlisten : Leads s { s with gates := s.gates.subscribe s.self } :=
    (Step.gates (.subscribe s.self) []).leads
  by_cases hsome : 0 < s.maxParallel
  · rw [begin_eq hsome]
    exact hlisten.trans (goes_proceed _).leads
  · have hnone := Int.not_lt.1 hsome
    rw [begin, if_pos hnone]
    exact hlisten.snoc (.refuse hnone)

theorem leads_turn (s : Scheduler) : Leads s s.turn := (goes_turn s).leads

theorem leads_interrupt (s : Scheduler) : Leads s s.interrupt := (runs_interrupt s).goes.leads

theorem leads_endBody (s : Scheduler) (id : String) (script : BodyScript) :
    Leads s (s.endBody id script).2 := (works_endBody s id script).leads

theorem leads_ready (s : Scheduler) : Leads s s.ready.2 := (owns_ready s).leads

end GatedPipeline.Scheduler
