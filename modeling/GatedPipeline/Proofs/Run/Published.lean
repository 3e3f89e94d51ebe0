-- What is published in a run. A success publishes what its record says, and
-- nothing else publishes anything: not a body that fails or breaks its
-- contract, not one that is cancelled, and not one that reports too late.
import GatedPipeline.Proofs.Run.Resume
namespace GatedPipeline.Scheduler

variable {P : String → List (String × Value) → Prop} {g : StageGraph}
  {rows : List (String × StageRecord)} {release : Option ReleaseOutcome}
  {s₀ s t e : Scheduler} {id : String} {i : Instance}

/-! ## What is published -/

/-- Nothing stays staged, and readers see of an instance what its record has if it has succeeded,
and nothing otherwise. The record of a success fits, and its outputs come from where they should.
Unlike the flow of the inputs this holds in a run that was aborted, too. -/
structure Published (P : String → List (String × Value) → Prop) (s : Scheduler) : Prop where
  staged : ∀ q, s.run.outputs.stagedOf q = []
  visible : ∀ q, q ≠ runScope → ∀ k, s.run.outputs.peek? q k =
    if s.state q = .succeeded then getPair? k (s.run.record q).outputs else none
  fits : ∀ i, s.graph.instance? i.id = some i → s.state i.id = .succeeded →
    Fits i (s.run.record i.id)
  given : ∀ q, s.state q = .succeeded → P q (s.run.record q).outputs

theorem Published.mono {P' : String → List (String × Value) → Prop} (h : Published P s)
    (hP : ∀ q outputs, P q outputs → P' q outputs) : Published P' s :=
  { h with given := fun q hq => hP q _ (h.given q hq) }

/-- An instance moves, but not to success, and readers see what they saw before. -/
theorem Published.moves {r : StageRecord} {after : List Effect} (h : Published P s)
    (hm : Moves s t id r after) (hr : r.state ≠ .succeeded)
    (hstaged : ∀ q, t.run.outputs.stagedOf q = [])
    (hseen : ∀ q, q ≠ runScope → t.run.outputs.publishedOf q = s.run.outputs.publishedOf q) :
    Published P t := by
  have hwas : s.state id ≠ .succeeded := by
    intro hs
    have := hm.unended
    rw [hs] at this
    cases this
  -- who has succeeded now is another instance, and had succeeded before
  have hother : ∀ q, t.state q = .succeeded →
      s.state q = .succeeded ∧ t.run.record q = s.run.record q := by
    intro q hq
    rw [hm.state] at hq
    rw [hm.record]
    split at hq
    · exact absurd hq hr
    · rename_i hne
      exact ⟨hq, if_neg hne⟩
  refine ⟨hstaged, ?_, ?_, ?_⟩
  · intro q hq k
    rw [OutputStore.peek?, hseen q hq]
    refine (h.visible q hq k).trans ?_
    by_cases hs : t.state q = .succeeded
    · obtain ⟨hsq, hrecord⟩ := hother q hs
      rw [if_pos hs, if_pos hsq, hrecord]
    · rw [if_neg hs, if_neg]
      intro hsq
      rw [hm.state] at hs
      split at hs
      · rename_i hid
        exact hwas (hid ▸ hsq)
      · exact hs hsq
  · intro i hi hs
    obtain ⟨hsi, hrecord⟩ := hother i.id hs
    rw [show t.graph = s.graph from hm.graph] at hi
    rw [hrecord]
    exact h.fits i hi hsi
  · intro q hs
    obtain ⟨hsq, hrecord⟩ := hother q hs
    rw [hrecord]
    exact h.given q hsq

/-- No instance moves, and nothing of an instance is published. -/
theorem Published.shows (h : Published P s) {settled : Option ReleaseOutcome}
    (hg : t.graph = s.graph) (hst : t.run.stages = s.run.stages)
    (ho : Shows settled s.run.outputs t.run.outputs) : Published P t := by
  have hstate : t.state = s.state := funext fun q => state_congr hst q
  have hrecord : t.run.record = s.run.record := by
    funext q
    rw [Run.record, hst, Run.record]
  refine ⟨fun q => ho.staged q (h.staged q), ?_, ?_, ?_⟩
  · intro q hq k
    rw [OutputStore.peek?, ho.published q hq, hstate, hrecord]
    exact h.visible q hq k
  · rw [hg, hstate, hrecord]
    exact h.fits
  · rw [hstate, hrecord]
    exact h.given

/-- No instance succeeds, and the outputs are left alone. -/
theorem Published.logs (h : Published P s) (hl : Logs s t)
    (hstill : ∀ j, t.state j = .succeeded → s.state j = .succeeded)
    (hsame : t.run.outputs = s.run.outputs) : Published P t := by
  have hmoves : ∀ {j r after}, Moves s t j r after → Published P t := by
    intro j r after hm
    refine h.moves hm (fun hr => ?_) (fun q => hsame ▸ h.staged q) fun q _ => by rw [hsame]
    have hwas := hstill j (by rw [hm.state, if_pos rfl, hr])
    have hopen := hm.unended
    rw [hwas] at hopen
    cases hopen
  cases hl with
  | still steady stages =>
    have hshows : Shows none s.run.outputs t.run.outputs := by
      rw [hsame]
      exact shows_refl none _
    exact h.shows steady.graph stages hshows
  | moved moves => exact hmoves moves
  | started moves => exact hmoves moves

/-- An instance that ends without success drops what it has staged, and publishes nothing. -/
theorem Published.loses {r : StageRecord} (h : Published P s) (hl : Loses s t id r) :
    Published P t := by
  obtain ⟨o, hspills, hout⟩ := hl.spills
  refine h.moves hl.toMoves ?_ ?_ ?_
  · intro hr
    have hlost := hl.lost
    rw [hr] at hlost
    cases hlost
  · intro q
    rw [hout, OutputStore.stagedOf_discard]
    split
    · rfl
    · rename_i hq
      rw [hspills.staged q hq, h.staged]
  · intro q hq
    rw [hout]
    refine hspills.published q ?_
    by_cases hid : q = id
    · exact Or.inr (hid ▸ hq)
    · exact Or.inl hid

theorem Published.wane (h : Published P s) (hw : Wane s t) : Published P t := by
  rcases hw with ha | hl
  · exact h.shows ha.graph ha.stages ha.outputs
  · exact h.loses hl

/-! ## A success -/

/-- A success publishes what its record has: the text of what its body reported. -/
theorem Published.succeed {report : BodyReport} {o : OutputStore} (h : Published P s)
    (hp : i.id ∈ s.run.stages.map (·.1)) (hi : s.graph.instance? i.id = some i)
    (was : s.state i.id = .running) (good : report.status = .succeeded)
    (wrote : stageOutputs i s.run.outputs report.outputs = (o, none))
    (all : ∀ k ∈ i.template.outputs, (getPair? k (o.stagedOf i.id)).isSome = true)
    (hP : P i.id (o.stagedOf i.id)) : Published P (s.complete i.id report) := by
  have he := complete_of_success hi was good wrote all
  have hm := moves_success hp hi was good wrote all
  have hspills := spills_stageOutputs i s.run.outputs report.outputs
  rw [wrote] at hspills
  have hout : (s.complete i.id report).run.outputs = o.commit i.id := by rw [he]
  have hrecord : (s.complete i.id report).run.record i.id =
      s.successRecord i.id (o.stagedOf i.id) := (hm.record i.id).trans (if_pos rfl)
  have hstate : ∀ q, q ≠ i.id → (s.complete i.id report).state q = s.state q :=
    fun q hq => (hm.state q).trans (if_neg hq)
  refine ⟨?_, ?_, ?_, ?_⟩
  · intro q
    rw [hout, OutputStore.stagedOf_commit]
    split
    · rfl
    · rename_i hq
      rw [hspills.staged q hq, h.staged]
  · intro q hq k
    rw [hout]
    by_cases hid : q = i.id
    · subst hid
      have hnone : s.run.outputs.peek? i.id k = none := by
        rw [h.visible _ hq, was]
        rfl
      have hnow : (s.complete i.id report).state i.id = .succeeded :=
        (hm.state i.id).trans (if_pos rfl)
      rw [peek?_of_staged h.staged wrote all hnone, if_pos hnow, hrecord]
      rfl
    · rw [OutputStore.peek?, publishedOf_of_success hid wrote, hstate q hid, hm.record, if_neg hid]
      exact h.visible q hq k
  · intro j hj hs
    rw [show (s.complete i.id report).graph = s.graph from hm.graph] at hj
    by_cases hid : j.id = i.id
    · obtain rfl := instance_unique hj hi hid
      rw [hrecord]
      exact fits_of_success h.staged wrote all rfl
    · rw [hm.record, if_neg hid]
      exact h.fits j hj (hstate j.id hid ▸ hs)
  · intro q hs
    by_cases hid : q = i.id
    · subst hid
      rw [hrecord]
      exact hP
    · rw [hm.record, if_neg hid]
      exact h.given q (hstate q hid ▸ hs)

theorem Published.rise (hf : Framed s) (h : Published P s) (hr : Rise e s t)
    (hP : ∀ i report rest o, s.graph.instance? i.id = some i →
      e.queue = .done i.id report :: rest → report.status = .succeeded → s.state i.id = .running →
      t.state i.id = .succeeded → stageOutputs i s.run.outputs report.outputs = (o, none) →
      (∀ k ∈ i.template.outputs, (getPair? k (o.stagedOf i.id)).isSome = true) →
      P i.id (o.stagedOf i.id)) : Published P t := by
  rcases hr.outputs_or_success with
    ⟨hsame, hstill⟩ | ⟨i, report, rest, o, known, told, good, was, wrote, all, rfl⟩
  · exact h.logs (hr.logs hf) hstill hsame
  · have hnow : (s.complete i.id report).state i.id = .succeeded :=
      ((moves_success (hf.present known) known was good wrote all).state i.id).trans (if_pos rfl)
    exact h.succeed (hf.present known) known was good wrote all
      (hP i report rest o known told good was hnow wrote all)

/-! ## Along a run -/

/-- The outputs are the text of what the instance reported under its declared keys when it succeeded
in this execution, or what was recorded of its success before. -/
def Gave (rows : List (String × StageRecord)) (s₀ s : Scheduler) (id : String)
    (outputs : List (String × Value)) : Prop :=
  (∃ report, Reported s₀ s id report ∧ ∀ k v, getPair? k outputs = some v →
    ∃ w, getPair? k report.outputs = some w ∧ v = .text w.shown) ∨
  ∃ r, success? rows id = some r ∧ outputs = r.outputs

theorem Gave.snoc {outputs : List (String × Value)} (h : Gave rows s₀ s id outputs)
    (hs : Step s t) : Gave rows s₀ t id outputs := by
  rcases h with ⟨report, hreport, hvalues⟩ | hrecorded
  · exact Or.inl ⟨report, hreport.snoc hs, hvalues⟩
  · exact Or.inr hrecorded

theorem Revives.published (h : Revives g rows release s) (hk : Kept g rows release) :
    Published (Gave rows s s) s := by
  have hsuccess : ∀ q, s.state q = .succeeded → ∃ r, success? rows q = some r ∧
      (s.run.record q).outputs = r.outputs := by
    intro q hs
    obtain ⟨r, hr⟩ := h.isSome_of_succeeded hs
    exact ⟨r, hr, h.outputs q r hr⟩
  refine ⟨h.staged, ?_, ?_, ?_⟩
  · intro q hq k
    rw [h.visible q k fun hid => absurd hid hq]
    by_cases hs : s.state q = .succeeded
    · obtain ⟨r, hr, houtputs⟩ := hsuccess q hs
      rw [if_pos hs, hr, houtputs]
      rfl
    · rw [if_neg hs]
      rw [h.state] at hs
      rcases hr : success? rows q with _ | r
      · rfl
      · simp [hr] at hs
  · intro i hi hs
    obtain ⟨r, hr, houtputs⟩ := hsuccess i.id hs
    obtain ⟨j, hj, hfits⟩ := hk.known i.id r hr
    rw [← h.planned, hi] at hj
    cases hj
    exact ⟨houtputs ▸ hfits.nodup, houtputs ▸ hfits.declared, houtputs ▸ hfits.others⟩
  · intro q hs
    obtain ⟨r, hr, houtputs⟩ := hsuccess q hs
    exact Or.inr ⟨r, hr, houtputs⟩

/-- What is staged by a report that succeeds was reported. -/
theorem reported_of_staged {report : BodyReport} {o o' : OutputStore} {k : String} {v : Value}
    (hempty : ∀ q, o.stagedOf q = []) (wrote : stageOutputs i o report.outputs = (o', none))
    (all : ∀ k ∈ i.template.outputs, (getPair? k (o'.stagedOf i.id)).isSome = true)
    (hv : getPair? k (o'.stagedOf i.id) = some v) :
    ∃ w, getPair? k report.outputs = some w ∧ v = .text w.shown := by
  by_cases hk : k ∈ i.template.outputs
  · obtain ⟨_, w, hw, hstaged⟩ := staged_of_success hempty wrote hk (all k hk)
    exact ⟨w, hw, Option.some.inj (hv.symm.trans hstaged)⟩
  · have hstaged := @getPair?_stagedOf_undeclared i o report.outputs k hk
    rw [wrote, hempty, hv] at hstaged
    cases hstaged

theorem Begun.published (h₀ : Begun g rows release s₀) (h : Leads s₀ s) :
    Published (Gave rows s₀ s) s := by
  obtain ⟨hrevives, hk⟩ := h₀.revives
  induction h with
  | refl => exact hrevives.published hk
  | @tail u v hlead hstep ih =>
    obtain ⟨hf, hkeyed⟩ := Leads.framed hrevives.framed hrevives.keyed hlead
    have hu : Published (Gave rows s₀ v) u := Published.mono ih fun _ _ h => h.snoc hstep
    rcases hstep.changes hf hkeyed with hw | @⟨w, ha, hr⟩
    · exact hw.keeps hf hu fun _ _ _ h hw => h.wane hw
    · have hpublished := hu.wane (.aside ha.toAside)
      refine hpublished.rise (hf.aside ha.toAside) hr ?_
      intro i report rest o known told good was hnow wrote all
      rw [ha.state] at was
      refine Or.inl ⟨report, ⟨u, v, rest, hlead, hstep, Leads.refl v, told, good, was, hnow⟩, ?_⟩
      intro k x hx
      exact reported_of_staged hpublished.staged wrote all hx

/-! ## The law -/

/-- At every moment of a run, be it a new one or one that is taken up, and whatever the bodies
report and when: of an instance that has succeeded just the declared outputs are visible, as its
record has them and as they were reported or recorded before; and of any other instance nothing is
visible, to those who look, to those who read, to those who take all, and to no condition. -/
theorem just_the_successes_are_published (h₀ : Begun g rows release s₀) (h : Leads s₀ s)
    (hi : s.graph.instance? i.id = some i) (hrun : i.id ≠ runScope) :
    (s.state i.id = .succeeded →
      (∀ k, (s.run.outputs.peek? i.id k).isSome = true ↔ k ∈ i.template.outputs) ∧
      (∀ k, s.run.outputs.peek? i.id k = getPair? k (s.run.record i.id).outputs) ∧
      (∀ k consumer v, s.run.outputs.read i.id k consumer = .ok v ↔
        getPair? k (s.run.record i.id).outputs = some v) ∧
      Gave rows s₀ s i.id (s.run.record i.id).outputs) ∧
    (s.state i.id ≠ .succeeded →
      s.run.outputs.publishedOf i.id = [] ∧
      (∀ k, s.run.outputs.peek? i.id k = none) ∧
      (∀ k consumer v, s.run.outputs.read i.id k consumer ≠ .ok v) ∧
      ∀ j stage k facts see, s.graph.conditionProducer? j.id stage k = some i.id →
        (s.graph.conditionScope j s.run.trigger (some s.run.outputs.peek?) facts).outputs =
          some see → see stage k = none) := by
  have hpublished := h₀.published h
  constructor
  · intro hs
    have hfits := hpublished.fits i hi hs
    have hseen : ∀ k, s.run.outputs.peek? i.id k = getPair? k (s.run.record i.id).outputs := by
      intro k
      rw [hpublished.visible i.id hrun k, if_pos hs]
    refine ⟨?_, hseen, ?_, hpublished.given i.id hs⟩
    · intro k
      rw [hseen]
      constructor
      · intro hsome
        by_contra hk
        rw [hfits.others k hk] at hsome
        cases hsome
      · intro hk
        obtain ⟨_, x, hx⟩ := hfits.declared k hk
        rw [hx]
        rfl
    · intro k consumer v
      rw [OutputStore.read_eq_ok, hseen]
  · intro hs
    have hnone : ∀ k, s.run.outputs.peek? i.id k = none := by
      intro k
      rw [hpublished.visible i.id hrun k, if_neg hs]
    refine ⟨OutputStore.publishedOf_eq_nil.2 hnone, hnone, ?_, ?_⟩
    · intro k consumer v hread
      rw [OutputStore.read_eq_ok, hnone] at hread
      cases hread
    · intro j stage k facts see hproducer hsee
      cases hsee
      simp only [hproducer, bind, Option.bind]
      exact hnone k

theorem begun_shipStart : Begun shipStart.graph [] none shipStart := by
  obtain ⟨_, _, ready⟩ := prepareStart_shipStart
  exact begun_of_prepareStart ready

/-- While the image is being released, just the image is visible. -/
theorem the_image_is_visible_and_nothing_of_the_release :
    Begun shipStart.graph [] none shipStart ∧ Leads shipStart shipReleasing ∧
      "build" ≠ runScope ∧ "deploy" ≠ runScope ∧
      (∃ build, shipReleasing.graph.instance? "build" = some build ∧
        shipReleasing.state "build" = .succeeded ∧
        ∀ k, (shipReleasing.run.outputs.peek? "build" k).isSome = true ↔
          k ∈ build.template.outputs) ∧
      ∃ deploy, shipReleasing.graph.instance? "deploy" = some deploy ∧
        shipReleasing.state "deploy" = .running ∧
        shipReleasing.run.outputs.publishedOf "deploy" = [] := by
  obtain ⟨hf, _⟩ := leads_shipReleasing.framed fresh_shipStart.framed fresh_shipStart.keyed
  have hbuild : shipReleasing.state "build" = .succeeded := by decide +kernel
  have hdeploy : shipReleasing.state "deploy" = .running := by decide +kernel
  have hbuilt : shipReleasing.state "build" ≠ .pending := by rw [hbuild]; simp
  have hdeployed : shipReleasing.state "deploy" ≠ .pending := by rw [hdeploy]; simp
  obtain ⟨build, hb, hbi⟩ := hf.instance_of_unpending hbuilt
  obtain ⟨deploy, hd, hdi⟩ := hf.instance_of_unpending hdeployed
  refine ⟨begun_shipStart, leads_shipReleasing, by decide, by decide,
    ⟨build, hb ▸ hbi, hbuild, ?_⟩, deploy, hd ▸ hdi, hdeploy, ?_⟩
  · have hlaw := just_the_successes_are_published begun_shipStart leads_shipReleasing hbi
      (by rw [hb]; decide)
    rw [hb] at hlaw
    exact (hlaw.1 hbuild).1
  · have hlaw := just_the_successes_are_published begun_shipStart leads_shipReleasing hdi
      (by rw [hd]; decide)
    rw [hd] at hlaw
    exact (hlaw.2 (by rw [hdeploy]; simp)).1

end GatedPipeline.Scheduler
