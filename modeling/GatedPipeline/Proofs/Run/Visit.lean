-- What a look at an instance comes to. Whatever is asked of the gate table and
-- the release engine moves no instance; then one instance moves, or the run
-- stops.
import GatedPipeline.Proofs.Run.Rise
namespace GatedPipeline.Scheduler

variable {s t u e : Scheduler} {id : String} {i : Instance}

/-! ## Asking others -/

theorem asks_deliver (s : Scheduler) (notices : List (Nat × Gate)) :
    Asks s (s.deliver notices) := by
  refine ⟨aside_deliver s notices, ?_⟩
  obtain ⟨notes, events, he, _⟩ := deliver_eq s notices
  rw [he]
  rfl

theorem asks_decide (s : Scheduler) : Asks s s.decideRelease.2 := by
  refine ⟨aside_decide s, ?_⟩
  obtain ⟨engine, notes, outputs, he, _⟩ := decideRelease_eq s
  rw [he]
  rfl

theorem asks_releaseFacts (s : Scheduler) : Asks s s.releaseFacts.2 := by
  have h := asks_decide s
  unfold releaseFacts
  split
  · exact asks_refl s
  · split <;> (rename_i heq; rw [heq] at h; exact h)

theorem asks_conditionHolds (s : Scheduler) (i : Instance) : Asks s (s.conditionHolds i).2 := by
  unfold conditionHolds
  dsimp only
  split
  · exact asks_releaseFacts s
  · exact asks_refl s

/-- The decision changes nothing that a reader sees but the tag of the release. -/
theorem Aside.peek?_eq (h : Aside s t) {p k : String}
    (hk : p = runScope → k ≠ "release_tag") :
    t.run.outputs.peek? p k = s.run.outputs.peek? p k := by
  by_cases hp : p = runScope
  · rw [hp]
    exact h.outputs.scope k (hk hp)
  · rw [OutputStore.peek?, h.outputs.published p hp, OutputStore.peek?]

/-- A condition that does not read the tag holds after the decision just as before it. -/
theorem conditionHolds_of_untagged (h : ∀ stage key p,
    s.graph.conditionProducer? i.id stage key = some p → p = runScope → key ≠ "release_tag") :
    (s.conditionHolds i).1 = (s.graph.conditionHolds i s.run.trigger
      (some s.run.outputs.peek?) (some s.releaseFacts.1)).holds := by
  have ha := asks_releaseFacts s
  have hsame : s.releaseFacts.2.graph.conditionHolds i s.releaseFacts.2.run.trigger
      (some s.releaseFacts.2.run.outputs.peek?) (some s.releaseFacts.1) =
      s.graph.conditionHolds i s.run.trigger (some s.run.outputs.peek?)
        (some s.releaseFacts.1) := by
    rw [show s.releaseFacts.2.graph = s.graph from ha.graph,
      show s.releaseFacts.2.run.trigger = s.run.trigger from ha.trigger]
    exact StageGraph.conditionHolds_congr fun stage key p hp => ha.peek?_eq (h stage key p hp)
  unfold conditionHolds
  dsimp only
  split
  · exact congrArg Condition.Verdict.holds hsame
  · rfl

theorem Asks.instance_eq (h : Asks s t) (hi : s.graph.instance? id = some i) :
    t.graph.instance? id = some i := by
  rwa [show t.graph = s.graph from h.graph]

theorem Releases.aside (h : s.Releases) (ha : Aside s t) : t.Releases := by
  obtain ⟨o, ho, hr, ht⟩ := h
  refine ⟨o, ha.decision ho, hr, ?_⟩
  rcases ha.outputs.tag with he | ⟨_, _, _, he⟩
  · exact (congrArg Option.isSome he).trans ht
  · exact congrArg Option.isSome he

theorem Clears.aside (h : Clears e s i) (ha : Aside s t) : Clears e t i where
  dependencies := by
    intro d hd
    rw [ha.state]
    exact h.dependencies d (by rwa [← show t.graph = s.graph from ha.graph])
  condition := h.condition
  release := fun hr => (h.release hr).aside ha

/-! ## Why an instance ends without success -/

/-- Why an instance ends in this state, which is no success. The scheduler was in the first state
when it began to look at the instance or took in the report of its body. -/
inductive Falls (e s : Scheduler) (i : Instance) : State → Prop
  | dependency {d : String} (needed : d ∈ s.graph.dependencies i.id)
      (lost : (s.state d).isLost = true) : Falls e s i .skipped
  | condition (dependencies : ∀ d ∈ s.graph.dependencies i.id, s.state d = .succeeded)
      (refused : (e.conditionHolds i).1 = .ok false) : Falls e s i .skipped
  | published {o : ReleaseOutcome}
      (dependencies : ∀ d ∈ s.graph.dependencies i.id, s.state d = .succeeded)
      (condition : (e.conditionHolds i).1 = .ok true) (releases : i.template.release = true)
      (decided : s.decision? = some o) (skip : o.decision = .skip) : Falls e s i .skipped
  | undecided {u : Scheduler} {fault : ReleaseFault}
      (dependencies : ∀ d ∈ s.graph.dependencies i.id, s.state d = .succeeded)
      (condition : (e.conditionHolds i).1 = .ok true) (releases : i.template.release = true)
      (asks : Asks e u) (no : u.decideRelease.1 = .error fault)
      (other : ∀ p k, fault ≠ .output (.duplicate p k)) : Falls e s i .failed
  | refused {name : String} {g : Gate} (clears : Clears e s i)
      (gate : i.gateName.filter (· ≠ "") = some name)
      (asked : s.gates.get? (gateId s.run.id name) = some g) (rejected : g.status = .rejected) :
      Falls e s i .skipped
  | rejected {gid : String} {g : Gate} (ready : s.state i.id = .ready)
      (waits : getPair? i.id s.awaiting = some gid) (known : s.gates.get? gid = some g)
      (rejected : g.status = .rejected) : Falls e s i .skipped
  | stopped {report : BodyReport} {rest : List Event}
      (told : e.queue = .done i.id report :: rest) (was : s.state i.id = .running)
      (status : report.status = .cancelled) : Falls e s i .cancelled
  | broken {report : BodyReport} {rest : List Event}
      (told : e.queue = .done i.id report :: rest) (was : s.state i.id = .running)
      (bad : report.status ≠ .succeeded) (unasked : report.status ≠ .cancelled) :
      Falls e s i .failed

/-! ## What a look comes to -/

/-- There is nothing to do about the instance now: it waits for dependencies that have not ended,
or for a gate that is not decided, or for nothing. -/
structure Idle (s : Scheduler) (i : Instance) : Prop where
  unpending : s.state i.id ≠ .pending
  blocked : s.state i.id = .blocked → s.graph.dependencyStatus i.id s.state = .waiting
  gated : ∀ gid, s.state i.id = .ready → getPair? i.id s.awaiting = some gid →
    ∃ g, s.gates.get? gid = some g ∧ g.status = .pending

/-- What a look at an instance comes to, and whether something changed. -/
inductive Looks (s : Scheduler) (i : Instance) : Bool × Scheduler → Prop
  | idle (idle : Idle s i) : Looks s i (false, s)
  | rise {v t : Scheduler} (asks : Asks s v) (rise : Rise s v t) : Looks s i (true, t)
  | skip {v : Scheduler} (asks : Asks s v) (waits : (v.state i.id).isWaiting = true)
      (reason : String) (falls : Falls s v i .skipped) :
      Looks s i (true, v.move i.id .skipped reason)
  | fail {v : Scheduler} (asks : Asks s v) (waits : (v.state i.id).isWaiting = true)
      (text message : String) (falls : Falls s v i .failed) :
      Looks s i (true, ((v.move i.id .failed text).addError message).afterFailure i)
  | abort {v : Scheduler} (asks : Asks s v) (error : String) : Looks s i (true, v.abort error)
  | crash {v : Scheduler} {c : Crash} (asks : Asks s v)
      (other : ∀ id was next, c ≠ .alreadyEnded id was next) :
      Looks s i (true, { v with crash := some c })

/-- Asking for a gate puts it into the table, and makes the instance ready unless the gate is
rejected. -/
theorem looks_requestGate (asks : Asks e s) (hk : s.gates.Keyed)
    (hi : s.graph.instance? i.id = some i)
    (was : s.state i.id = .pending ∨ s.state i.id = .blocked) (hc : Clears e s i) :
    Looks e i (true, s.requestGate i) := by
  unfold requestGate
  split
  · rename_i hnone
    exact .rise asks (.ready hi was hc fun name hn => by rw [hnone] at hn; cases hn)
  · rename_i name hname
    have hfacts := asks_releaseFacts s
    generalize s.releaseFacts = answer at hfacts ⊢
    obtain ⟨facts, v⟩ := answer
    dsimp only at hfacts ⊢
    obtain ⟨hself, _⟩ :=
      GateTable.request_spec v.gates name v.run.id (some v.run.trigger) facts.toOption v.now
    have hid := GateTable.id_request name v.run.id (some v.run.trigger) facts.toOption v.now
      (hfacts.keyed hk)
    have hasked : Asks v { v with gates :=
        (v.gates.request name v.run.id (some v.run.trigger) facts.toOption v.now).table } :=
      ⟨aside_gates v (fun hkv => GateTable.keyed_request _ _ _ _ _ hkv)
        (GateTable.keeps_request _ _ _ _ _ _), rfl⟩
    generalize v.gates.request name v.run.id (some v.run.trigger) facts.toOption v.now = change
      at hself hid hasked ⊢
    -- the scheduler that has asked, been told and written the answer down
    have hw : Asks s (({ v with gates := change.table }.deliver change.notices).write
        (.gate change.answer)) :=
      ((hfacts.trans hasked).trans (asks_deliver _ _)).trans
        ⟨aside_effects _ (by simp [Effect.isPlain, Effect.isQuiet]), rfl⟩
    have htable : (({ v with gates := change.table }.deliver change.notices).write
        (.gate change.answer)).gates = change.table := by
      obtain ⟨notes, events, hd, _, _⟩ := deliver_eq { v with gates := change.table } change.notices
      rw [hd]; rfl
    generalize ({ v with gates := change.table }.deliver change.notices).write
      (.gate change.answer) = w at hw htable ⊢
    have hgate : w.gates.get? (gateId w.run.id name) = some change.answer := by
      rw [htable, hw.runId, ← hfacts.runId]
      exact hself
    have hwas : w.state i.id = .pending ∨ w.state i.id = .blocked := by rwa [hw.state]
    split
    · -- rejected before it was asked for
      rename_i hrejected
      exact .skip (asks.trans hw) (isWaiting_of_was hwas) _
        (.refused (hc.aside hw.toAside) hname hgate hrejected)
    · have hgid : change.answer.id = gateId w.run.id name := by
        rw [hid, hw.runId, ← hfacts.runId]
      rw [hgid]
      exact .rise (asks.trans hw)
        (.wait (hw.instance_eq hi) hwas (hc.aside hw.toAside) hname hgate)
    · rename_i happroved
      refine .rise (asks.trans hw)
        (.ready (hw.instance_eq hi) hwas (hc.aside hw.toAside) fun name' hn => ?_)
      rw [hname] at hn
      cases hn
      exact ⟨_, hgate, happroved⟩

theorem looks_passRelease (asks : Asks e s) (hk : s.gates.Keyed)
    (hi : s.graph.instance? i.id = some i)
    (was : s.state i.id = .pending ∨ s.state i.id = .blocked)
    (hd : ∀ d ∈ s.graph.dependencies i.id, s.state d = .succeeded)
    (hc : (e.conditionHolds i).1 = .ok true) : Looks e i (true, s.passRelease i) := by
  unfold passRelease
  split
  · rename_i hrel
    have hdec := asks_decide s
    rcases hr : s.decideRelease with ⟨answer, v⟩
    rw [hr] at hdec
    dsimp only at hdec
    have hwas : v.state i.id = .pending ∨ v.state i.id = .blocked := by rwa [hdec.state]
    have hev := asks.trans hdec
    have hdeps : ∀ d ∈ v.graph.dependencies i.id, v.state d = .succeeded := by
      intro d hd'
      rw [hdec.state]
      exact hd d (by rwa [← show v.graph = s.graph from hdec.graph])
    split
    · rename_i hcase
      cases hcase
      exact .abort hev _
    · rename_i fault _ hother hcase
      cases hcase
      refine .fail hev (isWaiting_of_was hwas) _ _
        (.undecided hdeps hc hrel asks (congrArg Prod.fst hr) ?_)
      rintro p k rfl
      exact hother p k rfl
    · rename_i outcome _ hcase
      cases hcase
      split
      · rename_i hskip
        exact .skip hev (isWaiting_of_was hwas) _
          (.published hdeps hc hrel (decision_of_decideRelease hr) hskip)
      · rename_i hskip
        refine looks_requestGate hev (hdec.keyed hk) (hdec.instance_eq hi) hwas
          ⟨hdeps, hc, fun _ => releases_of_decideRelease hr ?_⟩
        cases ho : outcome.decision
        · rfl
        · exact absurd ho hskip
  · rename_i hrel
    exact looks_requestGate asks hk hi was ⟨hd, hc, fun h => absurd h hrel⟩

theorem looks_unlock (hk : s.gates.Keyed) (hi : s.graph.instance? i.id = some i)
    (was : s.state i.id = .pending ∨ s.state i.id = .blocked)
    (hd : ∀ d ∈ s.graph.dependencies i.id, s.state d = .succeeded) :
    Looks s i (true, s.unlock i) := by
  unfold unlock
  have ha := asks_conditionHolds s i
  rcases hc : s.conditionHolds i with ⟨answer, v⟩
  rw [hc] at ha
  dsimp only at ha
  have hwas : v.state i.id = .pending ∨ v.state i.id = .blocked := by rwa [ha.state]
  have hdeps : ∀ d ∈ v.graph.dependencies i.id, v.state d = .succeeded := by
    intro d hd'
    rw [ha.state]
    exact hd d (by rwa [← show v.graph = s.graph from ha.graph])
  rcases answer with b | holds
  · exact .crash ha (by simp)
  · cases holds
    · exact .skip ha (isWaiting_of_was hwas) _ (.condition hdeps (by rw [hc]))
    · exact looks_passRelease ha (ha.keyed hk) (ha.instance_eq hi) hwas hdeps (by rw [hc])

/-- An instance whose dependencies are satisfied has all of them succeeded. -/
theorem succeeded_of_satisfied {g : StageGraph} {states : String → State}
    (h : g.dependencyStatus id states = .satisfied) :
    ∀ d ∈ g.dependencies id, states d = .succeeded := by
  unfold StageGraph.dependencyStatus at h
  dsimp only at h
  split at h
  · cases h
  · split at h
    · rename_i hall
      intro d hd
      simpa using List.all_eq_true.1 hall d hd
    · cases h

/-- An instance whose dependencies are lost has one that has ended without success. -/
theorem lost_of_status {g : StageGraph} {states : String → State}
    (h : g.dependencyStatus id states = .lost) :
    ∃ d ∈ g.dependencies id, (states d).isLost = true := by
  unfold StageGraph.dependencyStatus at h
  dsimp only at h
  split at h
  · rename_i hany
    exact List.any_eq_true.1 hany
  · split at h <;> cases h

theorem looks_evaluate (hf : Framed s) (hk : s.gates.Keyed)
    (hi : s.graph.instance? i.id = some i)
    (was : s.state i.id = .pending ∨ s.state i.id = .blocked) : Looks s i (s.evaluate i) := by
  unfold evaluate
  dsimp only
  split
  · rename_i hlost
    obtain ⟨d, hd, hl⟩ := lost_of_status hlost
    exact .skip (asks_refl s) (isWaiting_of_was was) _ (.dependency hd hl)
  · rename_i hwaiting
    split
    · rename_i hp
      exact .rise (asks_refl s) (.block (hf.present hi) hp)
    · rename_i hp
      refine .idle ⟨hp, fun _ => hwaiting, fun gid hr => ?_⟩
      rcases was with was | was <;> rw [was] at hr <;> cases hr
  · rename_i hsat
    exact looks_unlock hk hi was (succeeded_of_satisfied hsat)

theorem looks_checkGate {gid : String} (was : s.state i.id = .ready)
    (waits : getPair? i.id s.awaiting = some gid) : Looks s i (s.checkGate i.id gid) := by
  unfold checkGate
  split
  · exact .crash (asks_refl s) (by simp)
  · rename_i g hg
    split
    · rename_i happroved
      exact .rise (asks_refl s) (.pass was waits hg happroved)
    · rename_i hrejected
      exact .skip (asks_refl s) (by rw [was]; rfl) _ (.rejected was waits hg hrejected)
    · rename_i hpending
      refine .idle ⟨by simp [was], by simp [was], fun gid' _ hw => ?_⟩
      rw [waits] at hw
      cases hw
      exact ⟨g, hg, hpending⟩

theorem looks_visit (hf : Framed s) (hk : s.gates.Keyed) (hi : s.graph.instance? id = some i) :
    Looks s i (s.visit id) := by
  have hid := hf.id_eq hi
  subst hid
  unfold visit
  rw [hi]
  dsimp only
  split
  · rename_i hp
    exact looks_evaluate hf hk hi (Or.inl hp)
  · rename_i hb
    exact looks_evaluate hf hk hi (Or.inr hb)
  · rename_i gid hr hw
    exact looks_checkGate hr hw
  · rename_i hp hb hw
    exact .idle ⟨hp, fun h => absurd h hb, fun gid hr hg => absurd hg (hw gid hr)⟩

/-! ## What a look changes -/

theorem Looks.changes {c : Bool} (hf : Framed s) (hi : s.graph.instance? i.id = some i)
    (h : Looks s i (c, t)) : Changes s t := by
  cases h with
  | idle => exact .wanes (Wanes.refl s)
  | rise asks rise => exact .rises asks rise
  | skip asks waits reason =>
    exact .wanes (asks.wanes.trans
      (wanes_move _ ((hf.aside asks.toAside).present (asks.instance_eq hi)) waits rfl))
  | @fail v asks waits text message =>
    have hfv := hf.aside asks.toAside
    have hfail := (wanes_move (some text) (hfv.present (asks.instance_eq hi)) waits
      (show State.failed.isLost = true from rfl)).trans (wanes_addError _ message)
    exact .wanes ((asks.wanes.trans hfail).trans (wanes_afterFailure (hfv.wanes hfail) i))
  | abort asks error =>
    exact .wanes (asks.wanes.trans (wanes_abort (hf.aside asks.toAside) error))
  | crash asks other => exact .wanes (asks.toAside.trans (aside_crash _ other)).wanes

theorem changes_visit (hf : Framed s) (hk : s.gates.Keyed) (id : String) :
    Changes s (s.visit id).2 := by
  rcases hi : s.graph.instance? id with _ | i
  · simp only [visit, hi]
    exact .wanes (Wanes.refl s)
  · have hlooks := looks_visit hf hk hi
    rcases hv : s.visit id with ⟨c, v⟩
    rw [hv] at hlooks
    exact hlooks.changes hf (by rwa [hf.id_eq hi])

end GatedPipeline.Scheduler
