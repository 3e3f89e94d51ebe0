-- The release decision of a run. Three ask for it: the condition of an
-- instance, the check of a release, and the request for a gate. Whoever is
-- first has it made and written down, and all others are told the same.
import GatedPipeline.Proofs.Run.Contract
namespace GatedPipeline

/-- Only an instance of a stage that is called like the run is called so. -/
theorem Instance.name_of_run {i : Instance} (h : i.id = runScope) : i.template.name = runScope := by
  unfold Instance.id instanceId at h
  split at h
  · exact h
  · -- with coordinates the identity ends with a bracket
    have hlast := congrArg (·.toList.getLast?) h
    rw [String.toList_append, show "]".toList = [']'] from rfl, List.getLast?_concat] at hlast
    exact absurd hlast (by decide)

namespace Scheduler

variable {g : StageGraph} {rows : List (String × StageRecord)} {release : Option ReleaseOutcome}
  {s₀ s t u v w e : Scheduler} {id : String} {i j : Instance} {o : ReleaseOutcome}

/-! ## The engine stays as it is -/

@[simp] theorem engine_move (s : Scheduler) (id : String) (st : State) (error : Option String) :
    (s.move id st error).engine = s.engine := by
  unfold move
  dsimp only
  split <;> rfl

@[simp] theorem engine_deliver (s : Scheduler) (notices : List (Nat × Gate)) :
    (s.deliver notices).engine = s.engine := by
  obtain ⟨notes, events, he, _⟩ := deliver_eq s notices
  rw [he]

@[simp] theorem engine_cancelOne (s : Scheduler) (reason id : String) :
    (s.cancelOne reason id).engine = s.engine := by
  unfold cancelOne
  split
  · rfl
  · exact engine_move _ _ _ _

@[simp] theorem engine_cancelEach (ids : List String) (reason : String) (s : Scheduler) :
    (ids.foldl (fun s id => s.cancelOne reason id) s).engine = s.engine := by
  induction ids generalizing s with
  | nil => rfl
  | cons id ids ih => simp [ih]

@[simp] theorem engine_afterFailure (s : Scheduler) (i : Instance) :
    (s.afterFailure i).engine = s.engine := by
  unfold afterFailure
  split
  · exact engine_cancelEach _ _ _
  · split
    · exact engine_cancelEach _ _ _
    · rfl

@[simp] theorem engine_abort (s : Scheduler) (error : String) :
    (s.abort error).engine = s.engine := engine_cancelEach _ _ _

/-- Once there is a decision, the engine stays as it is: the source is not read again. -/
def Settles (s t : Scheduler) : Prop := ∀ o, s.decision? = some o → t.engine = s.engine

theorem settles_of_same (h : t.engine = s.engine) : Settles s t := fun _ _ => h

theorem Settles.trans (h : Settles s t) (h' : Settles t u) : Settles s u := by
  intro o ho
  have hsame := h o ho
  rw [← hsame]
  refine h' o ?_
  rw [decision?, hsame]
  exact ho

theorem settles_decide (s : Scheduler) : Settles s s.decideRelease.2 :=
  fun _ ho => (aside_decide s).settled ho

/-- The facts are asked for where the decision is. -/
theorem releaseFacts_snd (s : Scheduler) : s.releaseFacts.2 = s.decideRelease.2 := by
  unfold releaseFacts
  split
  · rename_i hnone
    rw [decideRelease, Option.isNone_iff_eq_none.1 hnone]
  · split <;> (rename_i heq; rw [heq])

/-- What conditions and policies read is the decision. -/
theorem releaseFacts_of_decideRelease (h : s.decideRelease = (.ok o, t)) :
    s.releaseFacts = (.ok o.facts, t) := by
  unfold releaseFacts
  split
  · rename_i hnone
    rw [decideRelease, Option.isNone_iff_eq_none.1 hnone] at h
    cases h
  · rw [h]

/-! ### A look at an instance -/

theorem engine_requestGate_of_plain (h : i.gateName.filter (· ≠ "") = none) :
    (s.requestGate i).engine = s.engine := by
  unfold requestGate
  rw [h]
  exact engine_move _ _ _ _

theorem engine_requestGate_of_gated {name : String} (h : i.gateName.filter (· ≠ "") = some name) :
    (s.requestGate i).engine = s.decideRelease.2.engine := by
  rw [← releaseFacts_snd]
  unfold requestGate
  rw [h]
  dsimp only
  split
  · rw [engine_move, write, emit, engine_deliver]
  · rw [engine_move, write, emit, engine_deliver]
  · rw [engine_move, write, emit, engine_deliver]

theorem settles_requestGate (s : Scheduler) (i : Instance) : Settles s (s.requestGate i) := by
  rcases hgate : i.gateName.filter (· ≠ "") with _ | name
  · exact settles_of_same (engine_requestGate_of_plain hgate)
  · intro o ho
    rw [engine_requestGate_of_gated hgate]
    exact settles_decide s o ho

/-- A release goes on to its gate, or nothing more is asked for it. -/
theorem engine_passRelease_of_release (hrel : i.template.release = true) :
    (∃ o, s.decideRelease = (.ok o, s.decideRelease.2) ∧ o.decision = .release ∧
      s.passRelease i = s.decideRelease.2.requestGate i) ∨
    (s.passRelease i).engine = s.decideRelease.2.engine := by
  unfold passRelease
  rw [if_pos hrel]
  rcases s.decideRelease with ⟨answer, v⟩
  dsimp only
  split
  · rename_i hcase
    cases hcase
    exact Or.inr (engine_abort _ _)
  · rename_i hcase
    cases hcase
    refine Or.inr ?_
    rw [engine_afterFailure, addError, engine_move]
  · rename_i outcome _ hcase
    cases hcase
    split
    · exact Or.inr (engine_move _ _ _ _)
    · rename_i hgo
      refine Or.inl ⟨outcome, rfl, ?_, rfl⟩
      cases ho : outcome.decision
      · rfl
      · exact absurd ho hgo

theorem passRelease_of_plain (hplain : i.template.release = false) :
    s.passRelease i = s.requestGate i := by
  rw [passRelease, hplain]
  rfl

theorem settles_passRelease (s : Scheduler) (i : Instance) : Settles s (s.passRelease i) := by
  rcases hrel : i.template.release with _ | _
  · rw [passRelease_of_plain hrel]
    exact settles_requestGate s i
  · rcases engine_passRelease_of_release (s := s) hrel with ⟨_, _, _, hgate⟩ | hsame
    · rw [hgate]
      exact (settles_decide s).trans (settles_requestGate _ i)
    · exact (settles_decide s).trans (settles_of_same hsame)

theorem settles_unlock (s : Scheduler) (i : Instance) :
    Settles (s.conditionHolds i).2 (s.unlock i) := by
  unfold unlock
  rcases s.conditionHolds i with ⟨_ | holds, v⟩
  · exact settles_of_same rfl
  · cases holds
    · exact settles_of_same (engine_move _ _ _ _)
    · exact settles_passRelease v i

theorem unlock_of_passed (passed : s.conditionHolds i = (.ok true, v)) :
    s.unlock i = v.passRelease i := by
  rw [unlock, passed]

/-! ## Who asks for the decision -/

/-- The condition of the instance reads a fact of the release decision. -/
def ConditionAsks (s : Scheduler) (i : Instance) : Prop :=
  (s.graph.conditionHolds i s.run.trigger (some s.run.outputs.peek?)
    (some s.releaseFacts.1)).askedRelease = true

/-- When the scheduler looks at an instance whose dependencies have succeeded, it asks for the
release decision at up to three places. -/
inductive Consults (s : Scheduler) (i : Instance) : Scheduler → Prop
  | condition (asks : ConditionAsks s i) : Consults s i s
  | release {v : Scheduler} (passed : s.conditionHolds i = (.ok true, v))
      (releases : i.template.release = true) : Consults s i v
  | gate {v : Scheduler} {name : String} (passed : s.conditionHolds i = (.ok true, v))
      (plain : i.template.release = false) (gated : i.gateName.filter (· ≠ "") = some name) :
      Consults s i v
  | releaseGate {v w : Scheduler} {o : ReleaseOutcome} {name : String}
      (passed : s.conditionHolds i = (.ok true, v)) (releases : i.template.release = true)
      (decided : v.decideRelease = (.ok o, w)) (go : o.decision = .release)
      (gated : i.gateName.filter (· ≠ "") = some name) : Consults s i w

theorem conditionHolds_snd (s : Scheduler) (i : Instance) :
    (ConditionAsks s i ∧ (s.conditionHolds i).2 = s.decideRelease.2) ∨
      (¬ ConditionAsks s i ∧ (s.conditionHolds i).2 = s) := by
  unfold ConditionAsks conditionHolds
  dsimp only
  split
  · rename_i hasked
    exact Or.inl ⟨hasked, releaseFacts_snd s⟩
  · rename_i hasked
    exact Or.inr ⟨hasked, rfl⟩

theorem leads_conditionHolds (s : Scheduler) (i : Instance) : Leads s (s.conditionHolds i).2 := by
  rcases conditionHolds_snd s i with ⟨_, he⟩ | ⟨_, he⟩
  · rw [he]
    exact Step.decide.leads
  · rw [he]
    exact Leads.refl s

theorem Consults.leads (h : Consults s i v) : Leads s v := by
  have hpassed : ∀ {v}, s.conditionHolds i = (.ok true, v) → Leads s v := by
    intro v passed
    have hleads := leads_conditionHolds s i
    rwa [passed] at hleads
  cases h with
  | condition => exact Leads.refl s
  | release passed | gate passed => exact hpassed passed
  | @releaseGate v' _ _ _ passed _ decided =>
    refine (hpassed passed).snoc ?_
    have hstep := @Step.decide v'
    rwa [decided] at hstep

/-- After an answer the engine stays as it is while the scheduler looks at the instance. -/
theorem Consults.engine (h : Consults s i v) (answer : v.decideRelease = (.ok o, w)) :
    (s.unlock i).engine = w.engine := by
  have hdecided := decision_of_decideRelease answer
  cases h with
  | condition asks =>
    rcases conditionHolds_snd s i with ⟨_, he⟩ | ⟨hnot, _⟩
    · rw [answer] at he
      have hsettles := settles_unlock s i
      rw [he] at hsettles
      exact hsettles o hdecided
    · exact absurd asks hnot
  | release passed releases =>
    rw [unlock_of_passed passed]
    rcases engine_passRelease_of_release (s := v) releases with ⟨_, _, _, hgate⟩ | hsame
    · rw [hgate, answer]
      exact settles_requestGate w i o hdecided
    · rw [hsame, answer]
  | gate passed plain gated =>
    rw [unlock_of_passed passed, passRelease_of_plain plain, engine_requestGate_of_gated gated,
      answer]
  | @releaseGate v' _ o' name passed releases decided go gated =>
    rw [unlock_of_passed passed]
    rcases engine_passRelease_of_release (s := v') releases with ⟨_, _, _, hgate⟩ | hsame
    · rw [hgate, decided, engine_requestGate_of_gated gated, answer]
    · -- the answer is the one that the check of the release had
      rw [hsame, decided]
      have hkept := settles_decide v o' (decision_of_decideRelease decided)
      rw [answer] at hkept
      exact hkept.symm

/-! ## Being told the decision -/

/-- All that the instance depends on has succeeded, and the scheduler has not let it go on yet. -/
structure Unlocks (s : Scheduler) (i : Instance) : Prop where
  known : s.graph.instance? i.id = some i
  was : s.state i.id = .pending ∨ s.state i.id = .blocked
  satisfied : s.graph.dependencyStatus i.id s.state = .satisfied

theorem Unlocks.visit (h : Unlocks s i) : (s.visit i.id).2 = s.unlock i := by
  have hevaluate : (s.evaluate i).2 = s.unlock i := by
    unfold evaluate
    dsimp only
    rw [h.satisfied]
  unfold Scheduler.visit
  rw [h.known]
  dsimp only
  rcases h.was with was | was
  · rw [was]
    exact hevaluate
  · rw [was]
    exact hevaluate

/-- In a run from one moment to another the instance was told a release decision: when the scheduler
looked at it, or when someone asked what is ready and its condition was evaluated. Right after the
answer the scheduler was in the state `w`. -/
inductive Seen (s₀ s : Scheduler) (i : Instance) (w : Scheduler) (o : ReleaseOutcome) : Prop
  | look {u v : Scheduler} (before : Leads s₀ u) (going : u.halted = false) (unlocks : Unlocks u i)
      (consults : Consults u i v) (answer : v.decideRelease = (.ok o, w))
      (after : Leads (u.visit i.id).2 s)
  | ready {u : Scheduler} (before : Leads s₀ u) (known : u.graph.instance? i.id = some i)
      (unlocked : i.id ∈ u.graph.unlocked u.state) (asks : ConditionAsks u i)
      (answer : u.decideRelease = (.ok o, w)) (after : Leads w s)

/-- Ever after, the engine stays as it was after the answer. -/
theorem Seen.engine (h₀ : Poised s₀) (h : Seen s₀ s i w o) :
    s.engine = w.engine ∧ w.decision? = some o := by
  cases h with
  | @look u v before going unlocks consults answer after =>
    have hdecided := decision_of_decideRelease answer
    refine ⟨?_, hdecided⟩
    have hlooked := consults.engine answer
    rw [← unlocks.visit] at hlooked
    obtain ⟨hf, hk⟩ := (before.snoc (.visit going i.id)).framed h₀.framed h₀.keyed
    rw [← hlooked]
    refine (after.steady hf hk).settled (o := o) ?_
    rw [decision?, hlooked]
    exact hdecided
  | @ready u before known unlocked asks answer after =>
    have hdecided := decision_of_decideRelease answer
    have hstep : Step u w := by
      have hstep := @Step.decide u
      rwa [answer] at hstep
    obtain ⟨hf, hk⟩ := (before.snoc hstep).framed h₀.framed h₀.keyed
    exact ⟨(after.steady hf hk).settled hdecided, hdecided⟩

theorem Seen.decision (h₀ : Poised s₀) (h : Seen s₀ s i w o) : s.decision? = some o := by
  obtain ⟨hengine, hdecided⟩ := h.engine h₀
  rw [decision?, hengine]
  exact hdecided

/-! ### The journal comes first -/

/-- The body of an instance that waits has not been started. -/
theorem not_started_of_waiting (h₀ : Poised s₀) (h : Leads s₀ s)
    (waits : (s.state id).isWaiting = true) : id ∉ s.started := by
  intro hm
  have hrank := (h.told h₀).behind id hm
  cases hstate : s.state id with
  | pending | blocked | ready =>
    rw [hstate] at hrank
    exact absurd hrank (by decide)
  | running | succeeded | failed | skipped | cancelled =>
    rw [hstate] at waits
    cases waits

/-- What was done before the body of an instance was started comes before it. -/
theorem mem_of_grows {pre post : List Effect} {inputs : List (String × Value)} {e : Effect}
    (grows : t.effects <+: s.effects) (hnot : id ∉ t.started)
    (hs : s.effects = pre ++ .dispatched id inputs :: post) (hm : e ∈ t.effects) : e ∈ pre := by
  obtain ⟨rest, hrest⟩ := grows
  rw [hs] at hrest
  rcases List.append_eq_append_iff.1 hrest with ⟨more, hpre, _⟩ | ⟨more, hpre, hpost⟩
  · rw [hpre]
    exact List.mem_append_left _ hm
  · rcases more with _ | ⟨first, more⟩
    · rwa [hpre, List.append_nil] at hm
    · -- otherwise the body had been started by then
      refine absurd ?_ hnot
      obtain ⟨rfl, _⟩ := List.cons.inj hpost
      rw [started, hpre, List.filterMap_append]
      exact List.mem_append_right _ List.mem_cons_self

/-- Before the body of an instance is started that was told the decision, it is written down, unless
it was recorded before the run was taken up. -/
theorem Seen.journaled {pre post : List Effect} {inputs : List (String × Value)} (h₀ : Poised s₀)
    (h : Seen s₀ s i w o) (hs : s.effects = pre ++ .dispatched i.id inputs :: post) :
    s₀.decision? = some o ∨ .journal (.release s₀.run.id o) ∈ pre := by
  -- the first moment after the step in which the instance was told
  have hmoment : ∃ t, Leads s₀ t ∧ i.id ∉ t.started ∧ Leads t s ∧ t.decision? = some o := by
    cases h with
    | @look u v before going unlocks consults answer after =>
      have hstep := Step.visit going i.id
      refine ⟨_, before.snoc hstep, ?_, after, ?_⟩
      · obtain ⟨hf, hk⟩ := before.framed h₀.framed h₀.keyed
        have hbefore := not_started_of_waiting h₀ before (isWaiting_of_was unlocks.was)
        rcases hstep.started hf hk with he | ⟨j, he, hready, _⟩
        · rwa [he]
        · rw [he]
          intro hm
          rcases List.mem_append.1 hm with hm | hm
          · exact hbefore hm
          · -- only who is ready is started
            rw [← List.mem_singleton.1 hm] at hready
            rcases unlocks.was with was | was <;> rw [was] at hready <;> cases hready
      · rw [unlocks.visit, decision?, consults.engine answer]
        exact decision_of_decideRelease answer
    | @ready u before known unlocked asks answer after =>
      have hstep := @Step.decide u
      have hasked := aside_decide u
      rw [answer] at hstep hasked
      refine ⟨w, before.snoc hstep, ?_, after, decision_of_decideRelease answer⟩
      rw [(Wane.aside hasked).started]
      obtain ⟨hwaits, _⟩ := Bool.and_eq_true_iff.1 (List.mem_filter.1 unlocked).2
      exact not_started_of_waiting h₀ before hwaits
  obtain ⟨t, before, hnot, after, hdecided⟩ := hmoment
  obtain ⟨hf, hk⟩ := before.framed h₀.framed h₀.keyed
  refine ((before.steady h₀.framed h₀.keyed).made hdecided).imp_right ?_
  rintro ⟨_, hnote⟩
  exact mem_of_grows (after.steady hf hk).grows hnot hs hnote

/-! ## The tag of the release -/

/-- The tag is that of a release which is decided on, and it is written just when it is visible. -/
structure Tagged (s : Scheduler) : Prop where
  released : ∀ x, s.tag? = some x →
    ∃ o, s.decision? = some o ∧ o.decision = .release ∧ x = .text o.tag
  sealed : (runScope, "release_tag") ∈ s.run.outputs.written → s.tag?.isSome = true

theorem Revives.tagged (h : Revives g rows release s) : Tagged s := by
  refine ⟨?_, h.written⟩
  intro x hx
  rw [h.tag] at hx
  obtain ⟨o, ho, rfl⟩ := Option.map_eq_some_iff.1 hx
  obtain ⟨hrelease, hgo⟩ := Option.filter_eq_some_iff.1 ho
  exact ⟨o, h.decision.trans hrelease, by simpa using hgo, rfl⟩

/-- Neither the tag nor what is decided changes. -/
theorem Tagged.keeps (h : Tagged s) (hs : Steady s t) (htag : t.tag? = s.tag?)
    (hw : (runScope, "release_tag") ∈ t.run.outputs.written →
      (runScope, "release_tag") ∈ s.run.outputs.written) : Tagged t := by
  refine ⟨?_, ?_⟩
  · intro x hx
    rw [htag] at hx
    obtain ⟨o, ho, hgo, htext⟩ := h.released x hx
    exact ⟨o, hs.decision ho, hgo, htext⟩
  · intro hm
    rw [htag]
    exact h.sealed (hw hm)

theorem Tagged.aside (h : Tagged s) (ha : Aside s t) : Tagged t := by
  refine ⟨?_, ?_⟩
  · intro x hx
    rcases ha.outputs.tag with he | ⟨o, ho, hgo, he⟩
    · obtain ⟨o, ho, hgo, htext⟩ := h.released x (he.symm.trans hx)
      exact ⟨o, ha.decision ho, hgo, htext⟩
    · exact ⟨o, ho, hgo, Option.some.inj (hx.symm.trans he)⟩
  · intro hm
    rcases ha.outputs.written hm with hm | hsome
    · exact ha.outputs.tag_isSome (h.sealed hm)
    · exact hsome

/-- No instance is called like the run. -/
def Unnamed (s : Scheduler) : Prop := runScope ∉ s.run.stages.map (·.1)

theorem Tagged.wane (hn : Unnamed s) (h : Tagged s) (hw : Wane s t) : Tagged t := by
  rcases hw with ha | @⟨id, r, hl⟩
  · exact h.aside ha
  · obtain ⟨o, hspills, hout⟩ := hl.spills
    have hid : runScope ≠ id := by
      rintro rfl
      exact hn hl.present
    refine h.keeps hl.toSteady ?_ ?_
    · rw [tag?, hout, OutputStore.peek?]
      exact congrArg (getPair? _) (hspills.published runScope (Or.inl hid))
    · rw [hout]
      exact hspills.written runScope _ hid

theorem Tagged.rise (hf : Framed s) (hn : Unnamed s) (h : Tagged s) (hr : Rise e s t) :
    Tagged t := by
  have hsteady := (hr.logs hf).steady
  rcases hr.outputs_or_success with
    ⟨hsame, _⟩ | ⟨i, report, _, o, known, _, good, was, wrote, all, rfl⟩
  · refine h.keeps hsteady ?_ ?_
    · rw [tag?, hsame, tag?]
    · rw [hsame]
      exact id
  · have hid : runScope ≠ i.id := by
      intro hrun
      have hpresent := hf.present known
      rw [← hrun] at hpresent
      exact hn hpresent
    have hspills := spills_stageOutputs i s.run.outputs report.outputs
    rw [wrote] at hspills
    have hout : (s.complete i.id report).run.outputs = o.commit i.id := by
      rw [complete_of_success known was good wrote all]
    refine h.keeps hsteady ?_ ?_
    · rw [tag?, hout, OutputStore.peek?, publishedOf_of_success hid wrote]
      rfl
    · rw [hout]
      exact hspills.written runScope _ hid

theorem Unnamed.logs (hn : Unnamed s) (hf : Framed s) (hl : Logs s t) : Unnamed t := by
  have hgraph : t.graph = s.graph := hl.steady.graph
  rw [Unnamed, (hf.logs hl).keys, hgraph, ← hf.keys]
  exact hn

theorem Leads.tagged (h₀ : Revives g rows release s₀)
    (hname : ∀ i, g.instance? i.id = some i → i.template.name ≠ runScope) (h : Leads s₀ s) :
    Tagged s := by
  have hn : Unnamed s₀ := by
    intro hm
    rw [h₀.framed.keys] at hm
    obtain ⟨i, hi⟩ := exists_getPair?_of_key_mem hm
    have hid : i.id = runScope := h₀.framed.id_eq hi
    refine hname i ?_ (Instance.name_of_run hid)
    rw [← h₀.planned, hid]
    exact hi
  refine (h.keeps (P := fun u => Unnamed u ∧ Tagged u) h₀.framed h₀.keyed ⟨hn, h₀.tagged⟩ ?_ ?_).2
  · intro u v hf hu hw
    exact ⟨hu.1.logs hf hw.logs, hu.2.wane hu.1 hw⟩
  · intro e u v hf hu hr
    exact ⟨hu.1.logs hf (hr.logs hf), hu.2.rise hf hu.1 hr⟩

/-- That the tag was given twice is never the answer. -/
theorem Tagged.answer (h : Tagged s) (fault : OutputFault) :
    s.decideRelease.1 ≠ .error (.output fault) := by
  rcases hengine : s.engine with _ | engine
  · rw [decideRelease, hengine]
    intro he
    cases he
  · rw [decideRelease_of_sealed h.sealed hengine]
    intro he
    split at he <;> cases he

/-! ## The law -/

/-- In a run of which no stage is called like the run itself, whatever the version source says and
however often it fails: all who are told a release decision are told the same one, the source is not
read again after the first answer, and the decision is written down before the body of anyone is
started who was told. The tag is visible only if there is a release, and is its version then. That
the tag was given twice is never the answer. -/
theorem a_run_has_one_release_decision (h₀ : Begun g rows release s₀)
    (hname : ∀ i, g.instance? i.id = some i → i.template.name ≠ runScope) (h : Leads s₀ s) :
    (∀ i w o, Seen s₀ s i w o → s.decision? = some o ∧ s.engine = w.engine ∧
      ∀ j w' o', Seen s₀ s j w' o' → o' = o) ∧
    (∀ i w o, Seen s₀ s i w o → ∀ pre inputs post,
      s.effects = pre ++ .dispatched i.id inputs :: post →
      release = some o ∨ .journal (.release s₀.run.id o) ∈ pre) ∧
    (∀ x, s.tag? = some x →
      ∃ o, s.decision? = some o ∧ o.decision = .release ∧ x = .text o.candidate) ∧
    ∀ i v, Consults s i v → ∀ p k, v.decideRelease.1 ≠ .error (.output (.duplicate p k)) := by
  obtain ⟨hrevives, _⟩ := h₀.revives
  refine ⟨?_, ?_, ?_, ?_⟩
  · intro i w o hseen
    have hdecided := hseen.decision hrevives.toPoised
    refine ⟨hdecided, (hseen.engine hrevives.toPoised).1, ?_⟩
    intro j w' o' hseen'
    exact Option.some.inj ((hseen'.decision hrevives.toPoised).symm.trans hdecided)
  · intro i w o hseen pre inputs post hs
    rw [← hrevives.decision]
    exact hseen.journaled hrevives.toPoised hs
  · intro x hx
    obtain ⟨o, ho, hgo, rfl⟩ := (h.tagged hrevives hname).released x hx
    refine ⟨o, ho, hgo, ?_⟩
    rw [ReleaseOutcome.tag, if_pos hgo]
  · intro i v hconsults p k
    exact ((h.trans hconsults.leads).tagged hrevives hname).answer _

/-- The report of the build has been taken in: the release is next. -/
def shipUnlocked : Scheduler :=
  match (shipStart.begin.endBody "build" .default).1 with
  | some report => { shipBuilt with queue := [] }.handle (.done "build" report)
  | none => shipBuilt

theorem leads_shipUnlocked : Leads shipStart shipUnlocked := by
  have hidle : shipStart.begin.queue.isEmpty = true := by decide +kernel
  unfold shipUnlocked
  split
  · rename_i report hreport
    exact leads_shipBuilt.snoc (.take (queue_endBody_of_idle hidle hreport))
  · exact leads_shipBuilt

/-- The scheduler has looked at the release, and its gate has been approved. -/
def shipApproved : Scheduler :=
  match (shipUnlocked.visit "deploy").2.gates.decide "r1/prod" (.status .approved) "ann" "" 1 with
  | .ok c => ({ (shipUnlocked.visit "deploy").2 with gates := c.table }.deliver c.notices).turn
  | .error _ => (shipUnlocked.visit "deploy").2

theorem leads_shipApproved : Leads (shipUnlocked.visit "deploy").2 shipApproved := by
  unfold shipApproved
  split
  · rename_i c hc
    exact (Step.gates (.decide hc) c.notices).leads.trans (leads_turn _)
  · exact Leads.refl _

/-- The check of the release is told to release version 1.2.0, which is in the journal before the
body is started, and in the tag. -/
theorem the_release_is_written_down_before_it_is_sent :
    Begun shipStart.graph [] none shipStart ∧
      (∀ i, shipStart.graph.instance? i.id = some i → i.template.name ≠ runScope) ∧
      Leads shipStart shipApproved ∧
      ∃ deploy w o pre inputs post, Seen shipStart shipApproved deploy w o ∧
        o.candidate = "1.2.0" ∧ shipApproved.decision? = some o ∧
        shipApproved.tag? = some (.text o.candidate) ∧
        shipApproved.effects = pre ++ .dispatched "deploy" inputs :: post ∧
        .journal (.release "r1" o) ∈ pre := by
  have hname : ∀ i, shipStart.graph.instance? i.id = some i → i.template.name ≠ runScope := by
    have hall : ∀ p ∈ shipStart.graph.byId, p.2.template.name ≠ runScope := by decide +kernel
    intro i hi
    exact hall _ (mem_of_getPair? hi)
  have hdeploy : (shipUnlocked.graph.instance? "deploy").map (fun i => (i.id, i.template.release,
      (shipUnlocked.conditionHolds i).1.toOption,
      (shipUnlocked.conditionHolds i).2.decideRelease.1.toOption)) =
      some ("deploy", true, some true, some ⟨.release, "1.2.0", none⟩) := by decide +kernel
  have hgoing : shipUnlocked.halted = false := by decide +kernel
  have hwas : shipUnlocked.state "deploy" = .blocked := by decide +kernel
  have hsatisfied : shipUnlocked.graph.dependencyStatus "deploy" shipUnlocked.state =
      .satisfied := by decide +kernel
  have htag : shipApproved.tag?.isSome = true := by decide +kernel
  have hsent : "deploy" ∈ shipApproved.started := by decide +kernel
  obtain ⟨deploy, hi, hfacts⟩ := Option.map_eq_some_iff.1 hdeploy
  obtain ⟨hid, hfacts⟩ := Prod.mk.inj hfacts
  obtain ⟨hreleases, hfacts⟩ := Prod.mk.inj hfacts
  obtain ⟨hpassed, hanswer⟩ := Prod.mk.inj hfacts
  rcases hholds : shipUnlocked.conditionHolds deploy with ⟨answer, v⟩
  rw [hholds] at hpassed hanswer
  rcases hdecide : v.decideRelease with ⟨given, w⟩
  rw [hdecide] at hanswer
  rcases answer with b | passed
  · cases hpassed
  rcases given with fault | o
  · cases hanswer
  obtain rfl : passed = true := Option.some.inj hpassed
  obtain rfl : o = ⟨.release, "1.2.0", none⟩ := Option.some.inj hanswer
  rw [← hid] at hi hwas hsatisfied
  have hleads : Leads shipStart shipApproved :=
    (leads_shipUnlocked.snoc (.visit hgoing "deploy")).trans leads_shipApproved
  have hseen : Seen shipStart shipApproved deploy w ⟨.release, "1.2.0", none⟩ :=
    .look leads_shipUnlocked hgoing ⟨hi, Or.inr hwas, hsatisfied⟩ (.release hholds hreleases)
      hdecide (hid ▸ leads_shipApproved)
  obtain ⟨first, hfirst, hstart⟩ := List.mem_filterMap.1 hsent
  obtain ⟨pre, post, heffects⟩ := List.append_of_mem hfirst
  obtain ⟨hone, hjournal, hvisible, _⟩ :=
    a_run_has_one_release_decision begun_shipStart hname hleads
  obtain ⟨hdecided, _⟩ := hone _ _ _ hseen
  obtain ⟨x, hx⟩ := Option.isSome_iff_exists.1 htag
  obtain ⟨o, ho, _, rfl⟩ := hvisible x hx
  obtain rfl := Option.some.inj (ho.symm.trans hdecided)
  obtain ⟨inputs, rfl⟩ : ∃ inputs, first = .dispatched "deploy" inputs := by
    cases first with
    | dispatched id inputs =>
      obtain rfl := Option.some.inj hstart
      exact ⟨inputs, rfl⟩
    | journal | moved | shutdown | notice => cases hstart
  have hrun : shipStart.run.id = "r1" := by decide +kernel
  have hwritten := hjournal _ _ _ hseen pre inputs post (hid ▸ heffects)
  rw [hrun] at hwritten
  exact ⟨begun_shipStart, hname, hleads, deploy, w, _, pre, inputs, post, hseen, rfl, hdecided, hx,
    heffects, hwritten.resolve_left (by simp)⟩

end Scheduler

end GatedPipeline
