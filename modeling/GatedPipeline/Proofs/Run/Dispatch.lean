-- What stands behind a running instance. Each guard is checked at its own
-- time: dependencies, condition and release when the instance is looked at, the
-- gate perhaps much later. None of them is lost before the body is started.
import GatedPipeline.Proofs.Run.Lifecycle
namespace GatedPipeline

/-- An instance that was let go on and is not lost. -/
def State.isCleared : State → Bool
  | .ready | .running | .succeeded => true
  | _ => false

namespace Scheduler

variable {s₀ s t u e : Scheduler} {id : String} {i : Instance}

/-! ## What stands behind an instance -/

/-- There is something to release in this run. -/
def ToRelease (s : Scheduler) : Prop := ∃ o, s.decision? = some o ∧ o.decision = .release

/-- All that an instance depends on has succeeded, if it releases there is something to release,
and its gate is approved unless it still waits for it. -/
structure Behind (s : Scheduler) (i : Instance) : Prop where
  dependencies : ∀ d ∈ s.graph.dependencies i.id, s.state d = .succeeded
  release : i.template.release = true → s.ToRelease
  gate : ∀ name, i.gateName.filter (· ≠ "") = some name →
    getPair? i.id s.awaiting = some (gateId s.run.id name) ∨ s.Approved name

def Guarded (s : Scheduler) : Prop :=
  ∀ i, s.graph.instance? i.id = some i → (s.state i.id).isCleared = true → Behind s i

/-- All that an instance depends on has succeeded once the instance is let go on. -/
def Rooted (s : Scheduler) : Prop :=
  ∀ i, s.graph.instance? i.id = some i → (s.state i.id).isCleared = true →
    ∀ d ∈ s.graph.dependencies i.id, s.state d = .succeeded

theorem Guarded.rooted (h : Guarded s) : Rooted s := fun i hi hc => (h i hi hc).dependencies

/-! ## Nothing of it is lost -/

theorem Releases.toRelease (h : s.Releases) : s.ToRelease := by
  obtain ⟨o, ho, hr, _⟩ := h
  exact ⟨o, ho, hr⟩

theorem Approved.steady {name : String} (h : s.Approved name) (hs : Steady s t) :
    t.Approved name := by
  obtain ⟨g, hg, ha⟩ := h
  obtain ⟨g', hg', hsame⟩ := hs.keeps _ g ⟨name, rfl⟩ hg
  have : g' = g := hsame (by rw [ha]; simp)
  subst this
  exact ⟨g', by rw [hs.runId]; exact hg', ha⟩

theorem ToRelease.steady (h : s.ToRelease) (hs : Steady s t) : t.ToRelease := by
  obtain ⟨o, ho, hr⟩ := h
  exact ⟨o, hs.decision ho, hr⟩

theorem Logs.succeeded (h : Logs s t) (hs : s.state id = .succeeded) : t.state id = .succeeded :=
  ((h.forward id).2 (by rw [hs]; rfl)).trans hs

theorem Behind.logs (h : Behind s i) (hl : Logs s t)
    (ha : getPair? i.id t.awaiting = getPair? i.id s.awaiting) : Behind t i where
  dependencies := by
    intro d hd
    rw [show t.graph = s.graph from hl.steady.graph] at hd
    exact hl.succeeded (h.dependencies d hd)
  release := fun hr => (h.release hr).steady hl.steady
  gate := by
    intro name hn
    rw [ha, hl.steady.runId]
    exact (h.gate name hn).imp_right fun hg => hg.steady hl.steady

/-- What is to be shown of a change: what stands behind an instance that was not let go on before,
or that waits for another gate now. -/
theorem Guarded.logs (h : Guarded s) (hl : Logs s t)
    (hnew : ∀ i, s.graph.instance? i.id = some i → (t.state i.id).isCleared = true →
      (s.state i.id).isCleared = true ∧
        getPair? i.id t.awaiting = getPair? i.id s.awaiting ∨ Behind t i) : Guarded t := by
  intro i hi hc
  rw [show t.graph = s.graph from hl.steady.graph] at hi
  rcases hnew i hi hc with ⟨hwas, ha⟩ | hb
  · exact (h i hi hwas).logs hl ha
  · exact hb

theorem not_isCleared_of_isLost {st : State} (h : st.isLost = true) : st.isCleared = false := by
  cases st <;> first | rfl | cases h

theorem Guarded.wane (h : Guarded s) (hw : Wane s t) : Guarded t := by
  refine h.logs hw.logs fun i _ hc => Or.inl ?_
  rcases hw with ha | @⟨id, r, hl⟩
  · rw [ha.state] at hc
    exact ⟨hc, by rw [ha.awaiting]⟩
  · rw [hl.state] at hc
    split at hc
    · rw [not_isCleared_of_isLost hl.lost] at hc
      cases hc
    · rename_i hid
      exact ⟨hc, by rw [hl.awaiting, getPair?_dropPair, if_neg hid]⟩

/-- Of two instances with one identity there is one. -/
theorem instance_unique {g : StageGraph} {i j : Instance} (hi : g.instance? i.id = some i)
    (hj : g.instance? j.id = some j) (h : i.id = j.id) : i = j := by
  rw [h, hj] at hi
  exact (Option.some.inj hi).symm

/-- An instance that is made ready has all behind it, if it is to wait for its gate or the gate is
approved. -/
theorem guarded_ready {awaiting : List (String × String)} (h : Guarded s)
    (hi : s.graph.instance? i.id = some i) (hl : Logs s (move { s with awaiting } i.id .ready))
    (ho : (s.state i.id).isTerminal = false)
    (ha : ∀ j, j ≠ i.id → getPair? j awaiting = getPair? j s.awaiting) (hc : Clears e s i)
    (hg : ∀ name, i.gateName.filter (· ≠ "") = some name →
      getPair? i.id awaiting = some (gateId s.run.id name) ∨ s.Approved name) :
    Guarded (move { s with awaiting } i.id .ready) := by
  have he := @move_of_unended { s with awaiting } i.id .ready none ho
    (show State.ready.isTerminal = false from rfl)
  have hawaiting : (move { s with awaiting } i.id .ready).awaiting = awaiting := by rw [he]
  have hstate := fun j => @state_move { s with awaiting } i.id .ready none ho j
  refine h.logs hl fun j hj hcleared => ?_
  rw [hstate] at hcleared
  by_cases hid : j.id = i.id
  · obtain rfl := instance_unique hj hi hid
    refine Or.inr ⟨fun d hd => ?_, fun hr => ?_, fun name hn => ?_⟩
    · rw [show (move { s with awaiting } j.id .ready).graph = s.graph from hl.steady.graph] at hd
      exact hl.succeeded (hc.dependencies d hd)
    · exact (hc.release hr).toRelease.steady hl.steady
    · rw [hawaiting, hl.steady.runId]
      exact (hg name hn).imp_right fun happroved => happroved.steady hl.steady
  · rw [if_neg hid] at hcleared
    exact Or.inl ⟨hcleared, by rw [hawaiting, ha _ hid]⟩

theorem Guarded.rise (hf : Framed s) (ht : Tidy s) (h : Guarded s) (hr : Rise e s t) :
    Guarded t := by
  have hlogs := hr.logs hf
  cases hr with
  | @block id present was =>
    have ho : (s.state id).isTerminal = false := by rw [was]; rfl
    refine h.logs hlogs fun i _ hc => Or.inl ?_
    rw [state_move ho] at hc
    split at hc
    · cases hc
    · exact ⟨hc, by rw [move_of_unended ho rfl]⟩
  | @ready i known was clears gate =>
    exact guarded_ready h known hlogs (State.not_isTerminal_of_isWaiting (isWaiting_of_was was))
      (fun _ _ => rfl) clears fun name hn => Or.inr (gate name hn)
  | @wait i name g known was clears gate =>
    refine guarded_ready h known hlogs (State.not_isTerminal_of_isWaiting (isWaiting_of_was was))
      (fun j hj => by rw [getPair?_putPair, if_neg hj]) clears fun name' hn => Or.inl ?_
    rw [gate] at hn
    cases hn
    rw [getPair?_putPair, if_pos rfl]
  | @pass id gid g was waits known approved =>
    refine h.logs hlogs fun i hi hc => ?_
    by_cases hid : i.id = id
    · subst hid
      have hbehind := h i hi hc
      refine Or.inr { hbehind with gate := fun name hn => Or.inr ?_ }
      rcases hbehind.gate name hn with hwaits | happroved
      · rw [waits] at hwaits
        cases hwaits
        exact ⟨g, known, approved⟩
      · exact happroved
    · exact Or.inl ⟨hc, by rw [getPair?_dropPair, if_neg hid]⟩
  | @start id inputs _ _ _ able =>
    have was := (ready_of_startable able).1
    have ho : (s.state id).isTerminal = false := by rw [was]; rfl
    refine h.logs hlogs fun i _ hc => Or.inl ?_
    rw [start_eq ho] at hc ⊢
    refine ⟨?_, rfl⟩
    rw [state_putPair _ _ rfl] at hc
    split at hc
    · rename_i hid
      rw [hid, was]
      rfl
    · exact hc
  | @succeed i report rest o known told good was wrote all =>
    refine h.logs hlogs fun j _ hc => Or.inl ?_
    rw [complete_of_success known was good wrote all] at hc ⊢
    rw [state_putPair _ _ rfl] at hc
    rw [getPair?_dropPair]
    split at hc
    · rename_i hid
      rw [hid, was, if_pos rfl]
      refine ⟨rfl, ?_⟩
      rcases hg : getPair? i.id s.awaiting with _ | gid
      · rfl
      · have hready := ht.awaiting _ _ hg
        rw [was] at hready
        cases hready
    · rename_i hid
      exact ⟨hc, by rw [if_neg hid]⟩

theorem Fresh.guarded (h : Fresh s) : Guarded s := by
  intro i _ hc
  rw [h.state] at hc
  cases hc

theorem Leads.guarded (h₀ : Fresh s₀) (h : Leads s₀ s) : Tidy s ∧ Guarded s :=
  h.keeps (P := fun v => Tidy v ∧ Guarded v) h₀.framed h₀.keyed ⟨h₀.tidy, h₀.guarded⟩
    (fun _ _ _ hu hw => ⟨hu.1.wane hw, hu.2.wane hw⟩)
    fun _ _ _ hf hu hr => ⟨hu.1.rise hf hr, hu.2.rise hf hu.1 hr⟩

/-- When all that an instance depends on directly has succeeded, so has all the rest. -/
theorem Rooted.ancestors (hf : Framed s) (h : Rooted s)
    (hd : ∀ d ∈ s.graph.dependencies id, s.state d = .succeeded) :
    ∀ a, s.graph.DependsOn id a → s.state a = .succeeded := by
  intro a ha
  induction ha with
  | single hm => exact hd _ hm
  | @tail b c _ hc hb =>
    have hmem : b ∈ s.run.stages.map (·.1) := mem_of_state_ne (by rw [hb]; simp)
    rw [hf.keys] at hmem
    obtain ⟨i, hi⟩ := exists_getPair?_of_key_mem hmem
    have hid := hf.id_eq hi
    subst hid
    exact h i hi (by rw [hb]; rfl) c hc

theorem Guarded.ancestors (hf : Framed s) (h : Guarded s)
    (hd : ∀ d ∈ s.graph.dependencies id, s.state d = .succeeded) :
    ∀ a, s.graph.DependsOn id a → s.state a = .succeeded := h.rooted.ancestors hf hd

/-! ## The condition -/

/-- The condition of the instance held at a moment of the run when all that the instance depends on
had succeeded. -/
def Conditioned (s₀ s : Scheduler) (i : Instance) : Prop :=
  ∃ u, Leads s₀ u ∧ Leads u s ∧ (∀ a, u.graph.DependsOn i.id a → u.state a = .succeeded) ∧
    (u.conditionHolds i).1 = .ok true

theorem Wane.cleared (h : Wane s t) (hc : (t.state id).isCleared = true) :
    (s.state id).isCleared = true := by
  rcases h with ha | @⟨j, r, hl⟩
  · rwa [← ha.state]
  · rw [hl.state] at hc
    split at hc
    · rw [not_isCleared_of_isLost hl.lost] at hc
      cases hc
    · exact hc

theorem Wanes.cleared (h : Wanes s t) (hc : (t.state id).isCleared = true) :
    (s.state id).isCleared = true := by
  induction h with
  | refl => exact hc
  | tail _ hw ih => exact ih (hw.cleared hc)

/-- An instance that comes forward was let go on before, or its condition held when it was looked
at. -/
theorem Rise.cleared (hi : s.graph.instance? i.id = some i) (h : Rise e s t)
    (hc : (t.state i.id).isCleared = true) :
    (s.state i.id).isCleared = true ∨ Clears e s i := by
  cases h with
  | @block id present was =>
    rw [state_move (by rw [was]; rfl)] at hc
    split at hc
    · cases hc
    · exact Or.inl hc
  | @ready j known was clears =>
    rw [state_move (State.not_isTerminal_of_isWaiting (isWaiting_of_was was))] at hc
    split at hc
    · rename_i hid
      rw [instance_unique hi known hid]
      exact Or.inr clears
    · exact Or.inl hc
  | @wait j name g known was clears =>
    rw [state_move (s := { s with awaiting := putPair j.id (gateId s.run.id name) s.awaiting })
      (State.not_isTerminal_of_isWaiting (isWaiting_of_was was))] at hc
    split at hc
    · rename_i hid
      rw [instance_unique hi known hid]
      exact Or.inr clears
    · exact Or.inl hc
  | pass => exact Or.inl hc
  | @start id inputs _ _ _ able =>
    have was := (ready_of_startable able).1
    rw [start_eq (by rw [was]; rfl), state_putPair _ _ rfl] at hc
    split at hc
    · rename_i hid
      rw [hid, was]
      exact Or.inl rfl
    · exact Or.inl hc
  | @succeed j report rest o known told good was wrote all =>
    rw [complete_of_success known was good wrote all, state_putPair _ _ rfl] at hc
    split at hc
    · rename_i hid
      rw [hid, was]
      exact Or.inl rfl
    · exact Or.inl hc

/-- What is to be shown of a change: an instance that was not let go on before has all that it depends
on succeeded. -/
theorem Rooted.logs (h : Rooted s) (hl : Logs s t)
    (hnew : ∀ i, s.graph.instance? i.id = some i → (t.state i.id).isCleared = true →
      (s.state i.id).isCleared = true ∨
        ∀ d ∈ s.graph.dependencies i.id, s.state d = .succeeded) : Rooted t := by
  intro i hi hc d hd
  rw [show t.graph = s.graph from hl.steady.graph] at hi hd
  refine hl.succeeded ?_
  rcases hnew i hi hc with hwas | hdeps
  · exact h i hi hwas d hd
  · exact hdeps d hd

theorem Rooted.wane (h : Rooted s) (hw : Wane s t) : Rooted t :=
  h.logs hw.logs fun _ _ hc => Or.inl (hw.cleared hc)

theorem Rooted.rise (hf : Framed s) (h : Rooted s) (hr : Rise e s t) : Rooted t :=
  h.logs (hr.logs hf) fun _ hi hc => (hr.cleared hi hc).imp_right fun hclears =>
    hclears.dependencies

theorem Leads.rooted (h₀ : Poised s₀) (hr : Rooted s₀) (h : Leads s₀ s) : Rooted s :=
  h.keeps h₀.framed h₀.keyed hr (fun _ _ _ hu hw => hu.wane hw) fun _ _ _ hf hu hr => hu.rise hf hr

theorem Leads.conditioned (h₀ : Fresh s₀) (h : Leads s₀ s) (hi : s.graph.instance? i.id = some i)
    (hc : (s.state i.id).isCleared = true) : Conditioned s₀ s i := by
  induction h with
  | refl =>
    rw [h₀.state] at hc
    cases hc
  | @tail u v hlead hstep ih =>
    obtain ⟨hf, hk⟩ := Leads.framed h₀.framed h₀.keyed hlead
    have hg : v.graph = u.graph := (Step.leads hstep).steady hf hk |>.graph
    rw [hg] at hi
    have hback : (u.state i.id).isCleared = true → Conditioned s₀ v i := by
      intro hwas
      obtain ⟨w, hw, hwu, hrest⟩ := ih hi hwas
      exact ⟨w, hw, hwu.snoc hstep, hrest⟩
    -- an instance is let go on only by becoming ready, and its condition was asked there
    rcases hstep.changes hf hk with hw | @⟨w, ha, hr⟩
    · exact hback (hw.cleared hc)
    · rcases hr.cleared (by rwa [show w.graph = u.graph from ha.graph]) hc with hwas | hclears
      · exact hback (by rwa [← ha.state])
      · refine ⟨u, hlead, (Step.leads hstep), ?_, hclears.condition⟩
        refine (Leads.guarded h₀ hlead).2.ancestors hf fun d hd => ?_
        rw [← ha.state]
        exact hclears.dependencies d (by rwa [show w.graph = u.graph from ha.graph])

/-! ## The law -/

/-- While an instance runs, and so from the moment when it is started, all that it depends on has
succeeded, its condition held after that, there is something to release if it releases, and its
gate is approved. -/
theorem a_running_instance_has_passed_its_guards (h₀ : Fresh s₀) (h : Leads s₀ s)
    (hi : s.graph.instance? id = some i) (hr : s.state id = .running) :
    (∀ a, s.graph.DependsOn id a → s.state a = .succeeded) ∧
    (∃ u, Leads s₀ u ∧ Leads u s ∧ (∀ a, s.graph.DependsOn id a → u.state a = .succeeded) ∧
      (u.conditionHolds i).1 = .ok true) ∧
    (i.template.release = true → ∃ o, s.decision? = some o ∧ o.decision = .release) ∧
    (∀ name, i.gateName = some name → name ≠ "" →
      ∃ g, s.gates.get? (gateId s.run.id name) = some g ∧ g.status = .approved) := by
  obtain ⟨hf, _⟩ := h.framed h₀.framed h₀.keyed
  obtain ⟨htidy, hguarded⟩ := h.guarded h₀
  have hid := hf.id_eq hi
  subst hid
  have hc : (s.state i.id).isCleared = true := by rw [hr]; rfl
  have hbehind := hguarded i hi hc
  refine ⟨hguarded.ancestors hf hbehind.dependencies, ?_, hbehind.release, fun name hn hne => ?_⟩
  · obtain ⟨u, hu, hus, hd, hcond⟩ := h.conditioned h₀ hi hc
    refine ⟨u, hu, hus, ?_, hcond⟩
    obtain ⟨hfu, hku⟩ := hu.framed h₀.framed h₀.keyed
    rwa [show s.graph = u.graph from (hus.steady hfu hku).graph]
  · rcases hbehind.gate name (by simp [hn, hne]) with hwaits | happroved
    · have hready := htidy.awaiting _ _ hwaits
      rw [hr] at hready
      cases hready
    · exact happroved

theorem the_release_of_the_image_was_let_go_on :
    shipReleasing.state "deploy" = .running ∧ shipReleasing.state "build" = .succeeded ∧
      (∃ o, shipReleasing.decision? = some o ∧ o.decision = .release) ∧
      ∃ g, shipReleasing.gates.get? (gateId shipReleasing.run.id "prod") = some g ∧
        g.status = .approved := by
  have hr : shipReleasing.state "deploy" = .running := by decide +kernel
  have hi : ∃ i, shipReleasing.graph.instance? "deploy" = some i ∧ i.template.release = true ∧
      i.gateName = some "prod" := by
    refine ⟨_, Option.some_get (by decide +kernel) |>.symm, by decide +kernel, by decide +kernel⟩
  obtain ⟨i, hi, hrelease, hgate⟩ := hi
  obtain ⟨hdeps, _, hrel, hgates⟩ :=
    a_running_instance_has_passed_its_guards fresh_shipStart leads_shipReleasing hi hr
  exact ⟨hr, hdeps "build" (.single (by decide +kernel)), hrel hrelease,
    hgates "prod" hgate (by decide)⟩

end Scheduler

end GatedPipeline
