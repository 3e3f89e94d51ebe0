-- In a world where all answer alike, each instance of a run that ends meets
-- its fate, and what is visible of it is what the reference says.
import GatedPipeline.Proofs.Condition.Why
import GatedPipeline.Proofs.Run.World
namespace GatedPipeline.World
open GatedPipeline.Scheduler

variable {w : World} {g : StageGraph} {trigger : Trigger} {s₀ s t e : Scheduler} {id : String}
  {i : Instance}

/-! ## Agreement -/

/-- A report with which an instance succeeds in the world. -/
def Reports (w : World) (g : StageGraph) (trigger : Trigger) (id : String) (r : BodyReport) : Prop :=
  ∃ i, g.instance? id = some i ∧ r.status = .succeeded ∧ w.fate g trigger id = ending i r

/-- An instance that has ended has met its fate, and one that is ready or runs has passed all but
its body, and its gate if it waits for it. -/
structure Stands (w : World) (g : StageGraph) (trigger : Trigger) (s : Scheduler) (i : Instance) :
    Prop where
  ended : (s.state i.id).isTerminal = true → s.state i.id = (w.fate g trigger i.id).state
  passes : s.state i.id = .ready ∨ s.state i.id = .running → w.Passes trigger g i
  gate : s.state i.id = .ready ∨ s.state i.id = .running → ∀ name,
    i.gateName.filter (· ≠ "") = some name →
      getPair? i.id s.awaiting = some (gateId s.run.id name) ∨ w.approves name = true

/-- The run has come as far as it has in agreement with the reference. -/
structure Agrees (w : World) (g : StageGraph) (trigger : Trigger) (s : Scheduler) : Prop where
  planned : s.graph = g
  triggered : s.run.trigger = trigger
  flows : Flows (w.Reports g trigger) s
  bare : Bare s
  rooted : Rooted s
  tidy : Tidy s
  stands : ∀ i, g.instance? i.id = some i → w.Stands g trigger s i
  awaits : ∀ id gid, getPair? id s.awaiting = some gid → ∃ i name, g.instance? id = some i ∧
    i.gateName.filter (· ≠ "") = some name ∧ gid = gateId s.run.id name

theorem Stands.same (h : w.Stands g trigger s i) (hrun : t.run.id = s.run.id)
    (hs : t.state i.id = s.state i.id)
    (ha : getPair? i.id t.awaiting = getPair? i.id s.awaiting) : w.Stands g trigger t i where
  ended := by rw [hs]; exact h.ended
  passes := by rw [hs]; exact h.passes
  gate := by rw [hs, ha, hrun]; exact h.gate

theorem stands_of_unready (h : (t.state i.id).isTerminal = false) (hr : t.state i.id ≠ .ready)
    (hrun : t.state i.id ≠ .running) : w.Stands g trigger t i where
  ended := by rw [h]; intro h; cases h
  passes := fun hs => absurd hs (not_or.2 ⟨hr, hrun⟩)
  gate := fun hs => absurd hs (not_or.2 ⟨hr, hrun⟩)

theorem stands_of_ended (h : (t.state i.id).isTerminal = true)
    (hs : t.state i.id = (w.fate g trigger i.id).state) : w.Stands g trigger t i := by
  refine ⟨fun _ => hs, fun hr => ?_, fun hr => ?_⟩ <;>
    rcases hr with hr | hr <;> rw [hr] at h <;> cases h

/-! ## What readers see -/

/-- What is published of an instance that has succeeded is what its fate says. -/
theorem Agrees.peek?_of_succeeded (hg : g.Sound) (h : w.Agrees g trigger s) (ht : s.fatal = false)
    (hi : g.instance? i.id = some i) (hs : s.state i.id = .succeeded) {k : String}
    (hk : OwnKey i.id k) :
    s.run.outputs.peek? i.id k = getPair? k (w.fate g trigger i.id).outputs := by
  have hi' : s.graph.instance? i.id = some i := by rwa [h.planned]
  by_cases hdeclared : k ∈ i.template.outputs
  · obtain ⟨_, report, v, ⟨j, hj, hgood, hfate⟩, hv, hpeek⟩ :=
      h.flows.published ht i hi' hs k hdeclared
    obtain rfl : i = j := Option.some.inj (hi.symm.trans hj)
    rw [hfate, getPair?_ending report hgood, if_pos hdeclared, hv, hpeek]
    rfl
  · rw [w.getPair?_fate trigger hg hi (Or.inr hdeclared)]
    exact h.bare.hidden ht i hi' k hk (Or.inr hdeclared)

/-- An output that an ancestor declares is visible to an instance whose dependencies have succeeded,
just as the reference reads it. -/
theorem Agrees.peek?_eq_read (hg : g.Sound) (hf : Framed s) (h : w.Agrees g trigger s)
    (ht : s.fatal = false) (hd : ∀ d ∈ g.dependencies i.id, s.state d = .succeeded)
    {p : Instance} (hp : p ∈ g.ancestorInstances i.id) {k : String} (hk : k ∈ p.template.outputs) :
    p.id ≠ runScope ∧ s.run.outputs.peek? p.id k = w.read (w.fate g trigger) ⟨p.id, k⟩ := by
  obtain ⟨hancestor, hknown⟩ := StageGraph.id_of_mem_ancestorInstances hg.instance_id hp
  have hsucceeded : s.state p.id = .succeeded := by
    rw [← h.planned] at hd
    refine h.rooted.ancestors hf hd p.id ?_
    rw [h.planned]
    exact hg.ancestors hancestor
  obtain ⟨hrun, _⟩ :=
    h.flows.published ht p (by rwa [h.planned]) hsucceeded k hk
  refine ⟨hrun, ?_⟩
  rw [h.peek?_of_succeeded hg ht hknown hsucceeded fun he => absurd he hrun, read, if_neg]
  intro he
  exact hrun (congrArg Source.producer he)

/-- The values that a body is given are those of the reference. -/
theorem Agrees.inputs_eq (hg : g.Sound) (hs : w.Suits s) (h : w.Agrees g trigger s)
    (hi : g.instance? i.id = some i) {inputs : List (String × Value)}
    (hm : .dispatched i.id inputs ∈ s.effects) :
    inputs = w.inputs g (w.fate g trigger) i := by
  have hfed := h.flows.fed i.id inputs hm
  rw [h.planned] at hfed
  have hread : ∀ p ∈ g.inputsOf i.id, ∀ v, Delivers (w.Reports g trigger) s p.2 v →
      w.read (w.fate g trigger) p.2 = some v := by
    intro p hp v hv
    obtain ⟨name, source⟩ := p
    rcases hv with ⟨rfl, o, ho, hrelease, rfl⟩ | ⟨hrun, report, x, hreports, hx, rfl⟩
    · simp [read, tag, hs.decision o ho, hrelease]
    · obtain ⟨j, hj, hgood, hfate⟩ := hreports
      dsimp only at hj hx hrun hfate ⊢
      obtain ⟨i', hi', hfeeds⟩ := hg.inputs hp
      rw [hi] at hi'
      cases hi'
      rcases hfeeds with ⟨hsource, _⟩ | ⟨q, hq, hproducer, hkey⟩
      · exact absurd (congrArg Source.producer hsource) hrun
      · have hknown := (StageGraph.id_of_mem_ancestorInstances hg.instance_id hq).2
        rw [hproducer, hj] at hknown
        obtain rfl := Option.some.inj hknown
        rw [read, if_neg fun he => hrun (congrArg Source.producer he), hfate,
          getPair?_ending report hgood, if_pos hkey, hx]
        rfl
  have hmap : ∀ (l : List (String × Source)) (ins : List (String × Value)),
      List.Forall₂ (fun p q => q.1 = p.1 ∧ Delivers (w.Reports g trigger) s p.2 q.2) l ins →
      (∀ p ∈ l, ∀ v, Delivers (w.Reports g trigger) s p.2 v →
        w.read (w.fate g trigger) p.2 = some v) →
      ins = l.map fun p => (p.1, (w.read (w.fate g trigger) p.2).getD (.text "")) := by
    intro l ins hall
    induction hall with
    | nil => exact fun _ => rfl
    | @cons p q l ins hpq _ ih =>
      intro hl
      rw [List.map_cons, ← ih fun p hp => hl p (List.mem_cons_of_mem _ hp)]
      obtain ⟨name, source⟩ := p
      obtain ⟨name', value⟩ := q
      obtain ⟨rfl, hv⟩ := hpq
      have hsome := hl _ List.mem_cons_self value hv
      dsimp only at hsome ⊢
      rw [hsome]
      rfl
  exact hmap _ _ hfed hread

theorem Agrees.condition_eq (hg : g.Sound) (hf : Framed s) (hs : w.Suits s)
    (h : w.Agrees g trigger s) (ht : s.fatal = false) (hi : g.instance? i.id = some i)
    (hd : ∀ d ∈ g.dependencies i.id, s.state d = .succeeded) :
    (s.conditionHolds i).1 = w.condition g trigger (w.fate g trigger) i := by
  have houtputs : ∀ stage key p, g.conditionProducer? i.id stage key = some p →
      p ≠ runScope ∧ s.run.outputs.peek? p key = w.read (w.fate g trigger) ⟨p, key⟩ := by
    intro stage key p hp
    obtain ⟨⟨text, refs, htext, hrefs, hm⟩, hcase⟩ := hg.conditions hi hp
    rcases hcase with htag | ⟨q, hq, rfl, hkey⟩
    · cases htag
      exact absurd hm (hs.conditions i (by rwa [h.planned]) text refs htext hrefs)
    · exact h.peek?_eq_read hg hf ht hd hq hkey
  have hscopes : (g.conditionScope i trigger (some s.run.outputs.peek?)
      (some s.releaseFacts.1)).Agrees (g.conditionScope i trigger (some s.run.outputs.peek?)
      (some w.facts)) := by
    refine ⟨rfl, rfl, rfl, ?_⟩
    rcases releaseFacts_of_suits hs h.bare ht with he | ⟨m, m', he, hw⟩
    · exact Or.inl (congrArg some he)
    · exact Or.inr ⟨m, m', congrArg some he, congrArg some hw⟩
  calc (s.conditionHolds i).1
      = (g.conditionHolds i trigger (some s.run.outputs.peek?) (some s.releaseFacts.1)).holds := by
        rw [conditionHolds_of_untagged, h.planned, h.triggered]
        intro stage key p hp hrun
        exact absurd hrun (houtputs stage key p (h.planned ▸ hp)).1
    _ = (g.conditionHolds i trigger (some s.run.outputs.peek?) (some w.facts)).holds :=
        hscopes.holds _
    _ = w.condition g trigger (w.fate g trigger) i := by
        rw [StageGraph.conditionHolds_congr fun stage key p hp => (houtputs stage key p hp).2]; rfl

/-! ## Reasons agree with fates -/

/-- An instance that has ended has met its fate. -/
theorem Agrees.state_eq (hg : g.Sound) (h : w.Agrees g trigger s) (hid : id ∈ g.ids)
    (ht : (s.state id).isTerminal = true) : s.state id = (w.fate g trigger id).state := by
  obtain ⟨i, hi⟩ := exists_getPair?_of_key_mem hid
  obtain rfl := hg.instance_id hi
  exact (h.stands i hi).ended ht

theorem Agrees.fate_succeeded (hg : g.Sound) (h : w.Agrees g trigger s)
    (hd : ∀ d ∈ s.graph.dependencies i.id, s.state d = .succeeded) :
    ∀ d ∈ g.dependencies i.id, (w.fate g trigger d).state = .succeeded := by
  intro d hm
  have hs := hd d (by rwa [h.planned])
  rw [← h.state_eq hg (hg.dependencies_mem hm) (by rw [hs]; rfl), hs]

/-- The condition gave what it gives in the reference, at the moment when it was asked. -/
theorem Agrees.condition_of_asks (hg : g.Sound) (hf : Framed e) (hs : w.Suits e)
    (h : w.Agrees g trigger e) (ht : e.fatal = false) (ha : Asks e s)
    (hi : g.instance? i.id = some i)
    (hd : ∀ d ∈ s.graph.dependencies i.id, s.state d = .succeeded) {b : Bool}
    (hc : (e.conditionHolds i).1 = .ok b) :
    w.condition g trigger (w.fate g trigger) i = .ok b := by
  rw [← h.condition_eq hg hf hs ht hi fun d hm => ?_, hc]
  rw [← ha.state]
  exact hd d (by rwa [show s.graph = e.graph from ha.graph, h.planned])

theorem Agrees.passes (hg : g.Sound) (hf : Framed e) (hs : w.Suits e) (h : w.Agrees g trigger e)
    (ht : e.fatal = false) (ha : Asks e s) (hi : g.instance? i.id = some i) (hc : Clears e s i) :
    w.Passes trigger g i where
  dependencies := by
    intro d hm
    have hsucceeded := hc.dependencies d
      (by rwa [show s.graph = e.graph from ha.graph, h.planned])
    rw [ha.state] at hsucceeded
    rw [← h.state_eq hg (hg.dependencies_mem hm) (by rw [hsucceeded]; rfl), hsucceeded]
  condition := h.condition_of_asks hg hf hs ht ha hi hc.dependencies hc.condition
  release := by
    intro hr
    obtain ⟨o, ho, hrelease, _⟩ := hc.release hr
    exact ⟨o, (hs.steady ha.toSteady).decision o ho, hrelease⟩

/-- What a body reports when its instance runs is what it reports in the reference, and nothing but
that decides about the instance. -/
theorem Agrees.fate_of_report (hg : g.Sound) (hs : w.Suits s) (h : w.Agrees g trigger s)
    (hh : w.Holds s) (hi : g.instance? i.id = some i) {report : BodyReport} {rest : List Event}
    (told : s.queue = .done i.id report :: rest) (was : s.state i.id = .running) :
    w.fate g trigger i.id = ending i report := by
  obtain ⟨j, inputs, hj, hm, hreport⟩ :=
    hh.reports i.id report (by rw [told]; exact List.mem_cons_self)
  rw [h.planned, hi] at hj
  obtain rfl := Option.some.inj hj
  rw [((h.stands i hi).passes (Or.inr was)).fate_of_admitted hg hi fun name hn => ?_, World.report,
    ← h.inputs_eq hg hs hi hm, hreport]
  refine ((h.stands i hi).gate (Or.inr was) name hn).resolve_left fun hwaits => ?_
  have hready := h.tidy.awaiting _ _ hwaits
  rw [was] at hready
  cases hready

theorem Agrees.aside (h : w.Agrees g trigger s) (ha : Aside s t) : w.Agrees g trigger t where
  planned := ha.graph.trans h.planned
  triggered := ha.trigger.trans h.triggered
  flows := h.flows.wane (.aside ha)
  bare := h.bare.wane (.aside ha)
  rooted := h.rooted.wane (.aside ha)
  tidy := h.tidy.aside ha
  stands := fun i hi => (h.stands i hi).same ha.runId (ha.state _) (by rw [ha.awaiting])
  awaits := by
    rw [ha.awaiting, ha.runId]
    exact h.awaits

/-- A reason why an instance ends without success is one in the reference. -/
theorem Agrees.fate_of_falls (hg : g.Sound) (hf : Framed e) (hs : w.Suits e)
    (h : w.Agrees g trigger e) (hh : w.Holds e) (ht : e.fatal = false) (ha : Asks e s)
    (hd : w.Decides s) (hi : g.instance? i.id = some i) {st : State} (hfalls : Falls e s i st) :
    (w.fate g trigger i.id).state = st := by
  have hsides := h.aside ha.toAside
  have hrefused : ∀ {name : String} {gate : Gate}, w.Passes trigger g i →
      i.gateName.filter (· ≠ "") = some name →
      s.gates.get? (gateId s.run.id name) = some gate → gate.status = .rejected →
      (w.fate g trigger i.id).state = .skipped := by
    intro name gate hp hn hget hrejected
    rw [hp.fate_of_refused hg hi hn]
    rcases happroves : w.approves name with _ | _
    · rfl
    · have := (hd i (by rwa [hsides.planned]) name hn gate hget (by rw [hrejected]; simp)).2
        happroves
      rw [hrejected] at this
      cases this
  cases hfalls with
  | @dependency d needed lost =>
    rw [hsides.planned] at needed
    rw [w.fate_of_lost trigger hg hi needed]
    rw [← hsides.state_eq hg (hg.dependencies_mem needed) (State.isTerminal_of_isLost lost)]
    intro hsucceeded
    rw [hsucceeded] at lost
    cases lost
  | condition dependencies refused =>
    rw [w.fate_of_unmet trigger hg hi (hsides.fate_succeeded hg dependencies)
      (h.condition_of_asks hg hf hs ht ha hi dependencies refused)]
  | published dependencies condition releases decided skip =>
    rw [w.fate_of_published trigger hg hi (hsides.fate_succeeded hg dependencies)
      (h.condition_of_asks hg hf hs ht ha hi dependencies condition) releases
      ((hs.steady ha.toSteady).decision _ decided) skip]
  | @undecided u fault dependencies condition releases asks no other =>
    have hdecided := decideRelease_of_suits (hs.steady asks.toSteady)
      (h.bare.wane (.aside asks.toAside)) ((congrArg Prod.fst asks.flags).trans ht)
    rcases hw : w.outcome with _ | o
    · rw [w.fate_of_undecided trigger hg hi (hsides.fate_succeeded hg dependencies)
        (h.condition_of_asks hg hf hs ht ha hi dependencies condition) releases hw]
    · rw [hw, no] at hdecided
      cases hdecided
  | refused clears gate asked rejected =>
    exact hrefused (h.passes hg hf hs ht ha hi clears) gate asked rejected
  | rejected ready waits known rejected =>
    obtain ⟨j, name, hj, hn, rfl⟩ := hsides.awaits _ _ waits
    rw [hi] at hj
    obtain rfl := Option.some.inj hj
    exact hrefused ((hsides.stands i hi).passes (Or.inl ready)) hn known rejected
  | stopped told was status =>
    rw [h.fate_of_report hg hs hh hi told (by rwa [← ha.state]), ending, status]
  | broken told was bad unasked =>
    rw [h.fate_of_report hg hs hh hi told (by rwa [← ha.state])]
    unfold ending
    split
    · contradiction
    · contradiction
    · rfl

/-! ## Every step keeps agreement -/

theorem Agrees.logs (h : w.Agrees g trigger s) (hl : Logs s t)
    (flows : Flows (w.Reports g trigger) t) (bare : Bare t) (rooted : Rooted t) (tidy : Tidy t)
    (stands : ∀ i, g.instance? i.id = some i → t.state i.id = s.state i.id ∧
      getPair? i.id t.awaiting = getPair? i.id s.awaiting ∨ w.Stands g trigger t i)
    (awaits : ∀ id gid, getPair? id t.awaiting = some gid →
      getPair? id s.awaiting = some gid ∨ ∃ i name, g.instance? id = some i ∧
        i.gateName.filter (· ≠ "") = some name ∧ gid = gateId s.run.id name) :
    w.Agrees g trigger t where
  planned := hl.steady.graph.trans h.planned
  triggered := hl.steady.trigger.trans h.triggered
  flows := flows
  bare := bare
  rooted := rooted
  tidy := tidy
  stands := fun i hi => (stands i hi).elim
    (fun hsame => (h.stands i hi).same hl.steady.runId hsame.1 hsame.2) fun hstands => hstands
  awaits := by
    intro id gid hgid
    rw [hl.steady.runId]
    exact (awaits id gid hgid).elim (h.awaits id gid) fun hnew => hnew

theorem Agrees.lose (h : w.Agrees g trigger s) (hi : g.instance? i.id = some i) {r : StageRecord}
    (hl : Loses s t i.id r) (hfate : (w.fate g trigger i.id).state = r.state) :
    w.Agrees g trigger t := by
  have hw : Wane s t := .lose hl
  refine h.logs hw.logs (h.flows.wane hw) (h.bare.wane hw) (h.rooted.wane hw) (h.tidy.wane hw)
    (fun j hj => ?_) fun j gid hgid => Or.inl ?_
  · by_cases hid : j.id = i.id
    · obtain rfl := instance_unique hj hi hid
      have hstate : t.state j.id = r.state := by rw [hl.state, if_pos rfl]
      refine Or.inr (stands_of_ended ?_ (hstate.trans hfate.symm))
      rw [hstate]
      exact State.isTerminal_of_isLost hl.lost
    · exact Or.inl ⟨by rw [hl.state, if_neg hid],
        by rw [hl.awaiting, getPair?_dropPair, if_neg hid]⟩
  · rw [hl.awaiting, getPair?_dropPair] at hgid
    split at hgid
    · cases hgid
    · exact hgid

/-- An instance that is ready has passed all but its body, if it waits for its gate or the gate is
approved. -/
theorem stands_of_ready (hs : t.state i.id = .ready) (hp : w.Passes trigger g i)
    (hgate : ∀ name, i.gateName.filter (· ≠ "") = some name →
      getPair? i.id t.awaiting = some (gateId t.run.id name) ∨ w.approves name = true) :
    w.Stands g trigger t i where
  ended := by rw [hs]; intro h; cases h
  passes := fun _ => hp
  gate := fun _ => hgate

/-- What is to be shown when one instance is moved to a state that is no end. -/
theorem Agrees.move (awaiting : List (String × String)) {st : State} (h : w.Agrees g trigger s)
    (hl : Logs s (move { s with awaiting } id st))
    (flows : Flows (w.Reports g trigger) (move { s with awaiting } id st))
    (bare : Bare (move { s with awaiting } id st)) (rooted : Rooted (move { s with awaiting } id st))
    (tidy : Tidy (move { s with awaiting } id st)) (ho : (s.state id).isTerminal = false)
    (hst : st.isTerminal = false)
    (ha : ∀ j, j ≠ id → getPair? j awaiting = getPair? j s.awaiting)
    (stands : ∀ i, g.instance? i.id = some i → i.id = id →
      w.Stands g trigger (move { s with awaiting } id st) i)
    (awaits : ∀ id gid, getPair? id awaiting = some gid →
      getPair? id s.awaiting = some gid ∨ ∃ i name, g.instance? id = some i ∧
        i.gateName.filter (· ≠ "") = some name ∧ gid = gateId s.run.id name) :
    w.Agrees g trigger (move { s with awaiting } id st) := by
  have he := @move_of_unended { s with awaiting } id st none ho hst
  refine h.logs hl flows bare rooted tidy (fun i hi => ?_) ?_
  · by_cases hid : i.id = id
    · exact Or.inr (stands i hi hid)
    · refine Or.inl ⟨?_, ?_⟩
      · rw [state_move (s := { s with awaiting }) ho, if_neg hid]
        rfl
      · rw [he]
        exact ha _ hid
  · rw [he]
    exact awaits

theorem Agrees.rise (hg : g.Sound) (hf : Framed e) (hs : w.Suits e) (h : w.Agrees g trigger e)
    (hh : w.Holds e) (ht : e.fatal = false) (ha : Asks e s) (hd : w.Decides s) (hr : Rise e s t) :
    w.Agrees g trigger t := by
  have hsides := h.aside ha.toAside
  have hfs := hf.aside ha.toAside
  have hlogs := hr.logs hfs
  have hknown : ∀ {i}, s.graph.instance? i.id = some i → g.instance? i.id = some i := by
    intro i hi
    rwa [← hsides.planned]
  have happroves : ∀ {i}, g.instance? i.id = some i → ∀ name,
      i.gateName.filter (· ≠ "") = some name → s.Approved name → w.approves name = true := by
    rintro i hi name hn ⟨gate, hget, happroved⟩
    exact (hd i (by rwa [hsides.planned]) name hn gate hget (by rw [happroved]; simp)).1 happroved
  have flows := hsides.flows.rise hfs hsides.rooted hr fun p report rest told good was _ => by
    obtain ⟨i, rfl, hi⟩ := hfs.instance_of_unpending (by rw [was]; simp)
    exact ⟨i, hknown hi, good,
      h.fate_of_report hg hs hh (hknown hi) told (by rwa [← ha.state])⟩
  have bare := hsides.bare.rise hfs hsides.flows hr
  have rooted := hsides.rooted.rise hfs hr
  have tidy := hsides.tidy.rise hfs hr
  cases hr with
  | @block id present was =>
    have ho : (s.state id).isTerminal = false := by rw [was]; rfl
    refine hsides.move s.awaiting hlogs flows bare rooted tidy ho rfl
      (fun _ _ => rfl) (fun i _ hid => ?_) fun _ _ => Or.inl
    subst hid
    have hstate : (s.move i.id .blocked).state i.id = .blocked := by rw [state_move ho, if_pos rfl]
    exact stands_of_unready (by rw [hstate]; rfl) (by rw [hstate]; simp) (by rw [hstate]; simp)
  | @ready i known was clears gate =>
    have ho := State.not_isTerminal_of_isWaiting (isWaiting_of_was was)
    refine hsides.move s.awaiting hlogs flows bare rooted tidy ho rfl
      (fun _ _ => rfl) (fun j hj hid => ?_) fun _ _ => Or.inl
    obtain rfl := instance_unique hj (hknown known) hid
    exact stands_of_ready (by rw [state_move ho, if_pos rfl])
      (h.passes hg hf hs ht ha hj clears) fun name hn =>
        Or.inr (happroves hj name hn (gate name hn))
  | @wait i name _ known was clears gate asked =>
    have ho := State.not_isTerminal_of_isWaiting (isWaiting_of_was was)
    have he := @move_of_unended { s with
      awaiting := putPair i.id (gateId s.run.id name) s.awaiting } i.id .ready none ho rfl
    refine hsides.move _ hlogs flows bare rooted tidy ho rfl
      (fun j hj => by rw [getPair?_putPair, if_neg hj]) (fun j hj hid => ?_) fun j gid hgid => ?_
    · obtain rfl := instance_unique hj (hknown known) hid
      refine stands_of_ready ?_ (h.passes hg hf hs ht ha hj clears) fun name' hn => Or.inl ?_
      · rw [state_move (s := { s with
          awaiting := putPair j.id (gateId s.run.id name) s.awaiting }) ho, if_pos rfl]
      · rw [gate] at hn
        cases hn
        rw [he, getPair?_putPair, if_pos rfl]
    · rw [getPair?_putPair] at hgid
      split at hgid
      · rename_i hid
        cases hgid
        exact Or.inr ⟨i, name, hid ▸ hknown known, gate, rfl⟩
      · exact Or.inl hgid
  | @pass id gid gate was waits known approved =>
    refine hsides.logs hlogs flows bare rooted tidy (fun i hi => ?_) fun j gid' hgid => Or.inl ?_
    · by_cases hid : i.id = id
      · subst hid
        have hstands := hsides.stands i hi
        refine Or.inr (stands_of_ready was (hstands.passes (Or.inl was)) fun name hn => Or.inr ?_)
        rcases hstands.gate (Or.inl was) name hn with hwaits | happroved
        · rw [waits] at hwaits
          cases hwaits
          exact happroves hi name hn ⟨gate, known, approved⟩
        · exact happroved
      · exact Or.inl ⟨rfl, by rw [getPair?_dropPair, if_neg hid]⟩
    · rw [getPair?_dropPair] at hgid
      split at hgid
      · cases hgid
      · exact hgid
  | @start id inputs present going room able gathered =>
    obtain ⟨was, hnone⟩ := ready_of_startable able
    have he := @start_eq s id (by rw [was]; rfl) inputs
    have hstate : ∀ j, (s.start id inputs).state j = if j = id then .running else s.state j :=
      fun j => by rw [he, state_putPair _ _ rfl]; rfl
    have hawaiting : (s.start id inputs).awaiting = s.awaiting := by rw [he]
    refine hsides.logs hlogs flows bare rooted tidy (fun i hi => ?_) fun j gid hgid =>
      Or.inl (hawaiting ▸ hgid)
    by_cases hid : i.id = id
    · subst hid
      have hstands := hsides.stands i hi
      have hrunning : (s.start i.id inputs).state i.id = .running := by rw [hstate, if_pos rfl]
      refine Or.inr { ended := fun hended => ?_, passes := fun _ => hstands.passes (Or.inl was)
                      gate := fun _ name hn => Or.inr
                        ((hstands.gate (Or.inl was) name hn).resolve_left ?_) }
      · rw [hrunning] at hended
        cases hended
      · rw [hnone]
        simp
    · exact Or.inl ⟨by rw [hstate, if_neg hid], by rw [hawaiting]⟩
  | @succeed i report rest o known told good was wrote all =>
    have he := complete_of_success known was good wrote all
    have hstate : ∀ j, (s.complete i.id report).state j =
        if j = i.id then .succeeded else s.state j := fun j => by rw [he, state_putPair _ _ rfl]; rfl
    refine hsides.logs hlogs flows bare rooted tidy (fun j hj => ?_) fun j gid hgid => Or.inl ?_
    · by_cases hid : j.id = i.id
      · obtain rfl := instance_unique hj (hknown known) hid
        have hended : (s.complete j.id report).state j.id = .succeeded := by
          rw [hstate, if_pos rfl]
        refine Or.inr (stands_of_ended (by rw [hended]; rfl) ?_)
        rw [hended, h.fate_of_report hg hs hh hj told (by rwa [← ha.state]), ending, good]
      · exact Or.inl ⟨by rw [hstate, if_neg hid],
          by rw [he, getPair?_dropPair, if_neg hid]⟩
    · rw [he, getPair?_dropPair] at hgid
      split at hgid
      · cases hgid
      · exact hgid

theorem Agrees.fares (hg : g.Sound) (hf : Framed s) (hs : w.Suits s) (h : w.Agrees g trigger s)
    (hh : w.Holds s) (ht : s.fatal = false) (hd : w.Decides t) (hfares : Fares s t) :
    w.Agrees g trigger t := by
  have hsound := hf.sound
  cases hfares with
  | aside asks => exact h.aside asks.toAside
  | @rise u asks rise =>
    exact h.rise hg hf hs hh ht asks
      (hd.steady (rise.logs (hf.aside asks.toAside)).steady) rise
  | @fall u v i r asks known falls loses rest flags =>
    have hsides := h.aside asks.toAside
    rw [hsides.planned] at known
    have hdu := (hd.steady rest.toSteady).steady loses.toSteady
    exact (hsides.lose known loses (h.fate_of_falls hg hf hs hh ht asks hdu known falls)).aside
      rest.toAside

/-- A calm run in a world agrees with the reference all along. -/
theorem Within.agrees (h₀ : Poised s₀) (hs₀ : w.Suits s₀) (hh₀ : w.Holds s₀)
    (ha₀ : w.Agrees g trigger s₀) (h : w.Within s₀ s) (calm : s.Calm) :
    w.Agrees g trigger s ∧ w.Suits s ∧ w.Holds s := by
  induction h with
  | refl => exact ⟨ha₀, hs₀, hh₀⟩
  | @tail u v hlead hstep ih =>
    obtain ⟨hf, hk⟩ := (Within.leads hlead).framed h₀.framed h₀.keyed
    have hsteady := (Within.leads hlead).steady h₀.framed h₀.keyed
    have hcalm := hstep.1.calm hf hk (hs₀.lenient.steady hsteady) calm
    obtain ⟨hagrees, hsuits, hholds⟩ := ih hcalm
    refine ⟨hagrees.fares ?_ hf hsuits hholds (congrArg Prod.fst hcalm) hstep.2.gates
      (hstep.1.fares hf hk hsuits.lenient calm), ?_, hstep.2⟩
    · rw [← hagrees.planned]
      exact hf.sound
    · exact hs₀.steady ((Leads.snoc (Within.leads hlead) hstep.1).steady h₀.framed h₀.keyed)

end GatedPipeline.World
