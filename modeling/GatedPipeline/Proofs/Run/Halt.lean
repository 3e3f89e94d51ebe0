-- Nothing comes of a run that was stopped: no body is started, no record
-- changes, and what bodies still report comes too late.
import GatedPipeline.Proofs.Run.Progress
import GatedPipeline.Proofs.Run.Stoppage
namespace GatedPipeline.Scheduler

variable {s₀ s t u e : Scheduler} {id : String} {culprit : Option String}

/-! ## Nothing comes of a run that was stopped -/

theorem AllEnded.ended (ha : AllEnded s) (hf : Framed s) (hp : id ∈ s.run.stages.map (·.1)) :
    (s.state id).isTerminal = true := ha id (hf.order_of_present hp)

/-- No instance is running or waits, once all have ended. -/
theorem AllEnded.state (ha : AllEnded s) (hf : Framed s) (id : String) :
    s.state id = .pending ∨ (s.state id).isTerminal = true := by
  by_cases hp : id ∈ s.run.stages.map (·.1)
  · exact Or.inr (ha.ended hf hp)
  · exact Or.inl (state_of_not_mem hp)

theorem Wanes.aside_of_allEnded (hf : Framed s) (ha : AllEnded s) (h : Wanes s t) : Aside s t := by
  induction h with
  | refl => exact aside_refl s
  | @tail u v _ hw ih =>
    rcases hw with haside | @⟨id, r, hl⟩
    · exact ih.trans haside
    · -- whoever is lost had not ended
      have hended := ha.ended hf (ih.stages ▸ hl.present)
      rw [← ih.state, hl.unended] at hended
      cases hended

theorem Rise.not_allEnded (hf : Framed s) (ha : AllEnded s) (h : Rise e s t) : False := by
  have hnot : ∀ {id : String} {st : State}, s.state id = st → st ≠ .pending →
      st.isTerminal = false → False := by
    rintro id st rfl hne ho
    rcases ha.state hf id with hp | he
    · exact hne hp
    · rw [he] at ho
      cases ho
  have hpresent : ∀ {id : String}, id ∈ s.run.stages.map (·.1) → (s.state id).isWaiting = true →
      False := by
    intro id hp hw
    have hended := ha.ended hf hp
    rw [State.not_isTerminal_of_isWaiting hw] at hended
    cases hended
  cases h with
  | block present was => exact hpresent present (isWaiting_of_was (Or.inl was))
  | ready known was => exact hpresent (hf.present known) (isWaiting_of_was was)
  | wait known was => exact hpresent (hf.present known) (isWaiting_of_was was)
  | pass was => exact hnot was (by simp) rfl
  | start _ _ _ able => exact hnot (ready_of_startable able).1 (by simp) rfl
  | succeed _ _ _ was => exact hnot was (by simp) rfl

theorem AllEnded.aside (ha : AllEnded s) (h : Aside s t) : AllEnded t := by
  intro id hm
  rw [h.state]
  exact ha id ((show t.graph = s.graph from h.graph) ▸ hm)

theorem Step.aside_of_allEnded (hf : Framed s) (hk : s.gates.Keyed) (ha : AllEnded s)
    (h : Step s t) : Aside s t := by
  rcases h.changes hf hk with hw | @⟨u, hasks, hr⟩
  · exact hw.aside_of_allEnded hf ha
  · exact (hr.not_allEnded (hf.aside hasks.toAside) (ha.aside hasks.toAside)).elim

theorem Leads.aside_of_allEnded (hf : Framed s) (hk : s.gates.Keyed) (ha : AllEnded s)
    (h : Leads s t) : Aside s t := by
  induction h with
  | refl => exact aside_refl s
  | @tail u v hlead hstep ih =>
    obtain ⟨hfu, hku⟩ := Leads.framed hf hk hlead
    exact ih.trans (hstep.aside_of_allEnded hfu hku (ha.aside ih))

theorem AllEnded.not_running (ha : AllEnded s) (hf : Framed s) (id : String) :
    s.state id ≠ .running := by
  intro hs
  have h := ha.state hf id
  rw [hs] at h
  rcases h with h | h <;> cases h

theorem AllEnded.not_startable (ha : AllEnded s) (hf : Framed s) (id : String) :
    s.startable id ≠ true := by
  intro able
  have h := ha.state hf id
  rw [(ready_of_startable able).1] at h
  rcases h with h | h <;> cases h

/-- There is nothing to see at an instance that has ended. -/
theorem AllEnded.visit (ha : AllEnded s) (hf : Framed s) (id : String) : (s.visit id).2 = s := by
  unfold Scheduler.visit
  split
  · rfl
  · rename_i i hi
    have hended := ha.ended hf (hf.present hi)
    split
    · rename_i hs
      rw [hs] at hended
      cases hended
    · rename_i hs
      rw [hs] at hended
      cases hended
    · rename_i hs _
      rw [hs] at hended
      cases hended
    · rfl

theorem superseded_obeyCancel (s : Scheduler) : s.obeyCancel.superseded = true :=
  congrArg Prod.snd (flags_cancelEach _ _ _)

/-- The errors stay as they are, or the first request to cancel is noted. -/
def Notes (s t : Scheduler) : Prop :=
  t.superseded = s.superseded ∧ t.run.errors = s.run.errors ∨
    s.superseded = false ∧ t.superseded = true ∧
      ∃ reason : String, t.run.errors = s.run.errors ++ [s!"cancelled: {reason}"]

theorem Notes.trans (h : Notes s t) (h' : Notes t u) : Notes s u := by
  rcases h with ⟨hs, he⟩ | ⟨hs, ht, reason, he⟩
  · rcases h' with ⟨hs', he'⟩ | ⟨ht', hu', reason, he'⟩
    · exact Or.inl ⟨hs'.trans hs, he'.trans he⟩
    · exact Or.inr ⟨hs ▸ ht', hu', reason, he ▸ he'⟩
  · rcases h' with ⟨hs', he'⟩ | ⟨ht', _⟩
    · exact Or.inr ⟨hs, hs'.trans ht, reason, he'.trans he⟩
    · rw [ht] at ht'
      cases ht'

theorem Leaves.notes (h : Leaves s t) : Notes s t := Or.inl ⟨h.superseded, h.errors⟩

theorem Step.notes_of_allEnded (hf : Framed s) (ha : AllEnded s) (h : Step s t) : Notes s t := by
  have hsame : Notes s s := Or.inl ⟨rfl, rfl⟩
  cases h with
  | obey asked first =>
    obtain ⟨reason, hd⟩ := desk_obeyCancel s
    exact Or.inr ⟨first, superseded_obeyCancel s, reason, congrArg (·.2.1) hd⟩
  | @take e rest next =>
    cases e with
    | done id report =>
      have hlate : (complete { s with queue := rest } id report) = _ :=
        complete_of_not_running (s := { s with queue := rest }) (ha.not_running hf id) report
      rw [handle, hlate]
      exact Or.inl ⟨rfl, rfl⟩
    | gate | wake => exact Or.inl ⟨rfl, rfl⟩
  | expire _ gid => exact (leaves_expireGate s _ gid).notes
  | visit _ id =>
    rw [ha.visit hf id]
    exact hsame
  | start _ _ able => exact absurd able (ha.not_startable hf _)
  | starve _ able => exact absurd able (ha.not_startable hf _)
  | stall unfinished =>
    rw [finished_of_allEnded hf ha] at unfinished
    cases unfinished
  | finish => exact Or.inl ⟨superseded_of_flags (flags_finish s), errors_finish s⟩
  | breakOff | refuse | giveUp | cancel | report | clock => exact Or.inl ⟨rfl, rfl⟩
  | gates _ heard => exact (leaves_told s _ heard).notes
  | decide => exact (leaves_decide s).notes

theorem Leads.notes_of_allEnded (hf : Framed s) (hk : s.gates.Keyed) (ha : AllEnded s)
    (h : Leads s t) : Notes s t := by
  induction h with
  | refl => exact Or.inl ⟨rfl, rfl⟩
  | @tail u v hlead hstep ih =>
    have haside := Leads.aside_of_allEnded hf hk ha hlead
    exact ih.trans (hstep.notes_of_allEnded (hf.aside haside) (ha.aside haside))

/-! ## The law -/

/-- What has ended keeps its record. -/
theorem Logs.record (h : Logs s t) (he : (s.state id).isTerminal = true) :
    t.run.record id = s.run.record id := by
  have hmoved : ∀ {j r after}, Moves s t j r after → t.run.record id = s.run.record id := by
    intro j r after hm
    have hne : id ≠ j := by
      rintro rfl
      rw [hm.unended] at he
      cases he
    rw [Run.record, Run.record, hm.stages, getPair?_putPair, if_neg hne]
  cases h with
  | still _ stages => rw [Run.record, Run.record, stages]
  | moved moves => exact hmoved moves
  | started moves => exact hmoved moves

theorem Step.record (hf : Framed s) (hk : s.gates.Keyed) (h : Step s t)
    (he : (s.state id).isTerminal = true) : t.run.record id = s.run.record id := by
  have hone : ∀ u v, (u.state id).isTerminal = true ∧ u.run.record id = s.run.record id →
      Logs u v → (v.state id).isTerminal = true ∧ v.run.record id = s.run.record id := by
    intro u v hu hl
    refine ⟨?_, (hl.record hu.1).trans hu.2⟩
    rw [(hl.forward id).2 hu.1]
    exact hu.1
  exact (h.keeps (P := fun u => (u.state id).isTerminal = true ∧
    u.run.record id = s.run.record id) hf hk ⟨he, rfl⟩ (fun u v _ hu hw => hone u v hu hw.logs)
    fun _ u v hfu hu hr => hone u v hu (hr.logs hfu)).2

theorem Stopped.allEnded (hf : Framed s) (hk : s.gates.Keyed) (h : Stopped s t culprit)
    (hstep : Step s t) : AllEnded t := by
  intro id hm
  have hgraph : t.graph = s.graph := (hstep.leads.steady hf hk).graph
  by_cases he : (s.state id).isTerminal = true
  · rwa [(hstep.forward hf hk id).2 he]
  · by_cases hid : culprit = some id
    · rw [(h.failed id hid).2]
      rfl
    · rw [h.cancelled id (hgraph ▸ hm) (by simpa using he) hid]
      rfl

/-- The body of every instance that is in flight was told to stop, once all have ended. -/
theorem Manned.told_to_stop (h : Manned s) (hf : Framed s) (ha : AllEnded s) :
    ∀ j ∈ s.bodies, j.cancelled = true :=
  fun j hj => (h.runs j hj).resolve_left (ha.not_running hf j.id)

/-- A request to cancel that is obeyed, a breach of contract, an output that is given twice, and a
failure where fail-fast holds for the run stop it in one step: what had ended stays as it is, the
instance that was the cause has failed, all others are cancelled, and every body in flight is told
to stop. After that no body is started, no record changes and nothing more is shown of an instance
(the tag of the run, which is no output of one, apart), the reports that still come change nothing
of the run, and one request to cancel is noted, or none if nobody asked for it. -/
theorem a_stop_ends_everything_at_once_and_for_good (h₀ : Untouched s₀) (h : Course s₀ s)
    (stop : Stoppage s culprit t) :
    (∀ id, (s.state id).isTerminal = true → t.run.record id = s.run.record id) ∧
    (∀ id ∈ culprit, (s.state id).isTerminal = false ∧ t.state id = .failed) ∧
    (∀ id ∈ s.graph.order, (s.state id).isTerminal = false → culprit ≠ some id →
      t.state id = .cancelled) ∧
    (∀ id, culprit ≠ some id → ∀ k, OwnKey id k →
      t.run.outputs.peek? id k = s.run.outputs.peek? id k) ∧
    (∀ j ∈ t.bodies, j.cancelled = true) ∧
    ∀ u, Leads t u →
      (u.started = t.started ∧ u.dispatched = t.dispatched) ∧
      u.run.stages = t.run.stages ∧
      (∀ id k, OwnKey id k → u.run.outputs.peek? id k = t.run.outputs.peek? id k) ∧
      (∀ id report rest, u.queue = .done id report :: rest →
        ({ u with queue := rest }.handle (.done id report)).run = u.run) ∧
      (u.run.errors = t.run.errors ∨
        ∃ reason : String, u.run.errors = t.run.errors ++ [s!"cancelled: {reason}"]) ∧
      u.run.errors.countP isCancelEntry ≤ 1 ∧
      (t = s.obeyCancel → u.run.errors.countP isCancelEntry = 1) := by
  obtain ⟨hf, hk⟩ := h.leads.framed h₀.framed h₀.keyed
  have hown := stop.own
  have hstep := hown.work.step
  have hstopped := stop.stopped hf hk
  have hended := hstopped.allEnded hf hk hstep
  obtain ⟨hft, hkt⟩ := hstep.framed hf hk
  have hmanned := (h.snoc (hown.beat hf)).manned h₀
  refine ⟨fun id he => hstep.record hf hk he, hstopped.failed, hstopped.cancelled,
    fun id hid k hkey => stop.peek? hf hk hid hkey, hmanned.told_to_stop hft hended,
    fun u hu => ?_⟩
  have haside := hu.aside_of_allEnded hft hkt hended
  have hnotes := hu.notes_of_allEnded hft hkt hended
  refine ⟨⟨(Wane.aside haside).started, haside.dispatched⟩, haside.stages,
    fun id k hkey => haside.outputs.peek? hkey, fun id report rest _ => ?_,
    hnotes.imp And.right fun ⟨_, _, hreason⟩ => hreason, ?_⟩
  · -- the report comes too late
    have hlate := complete_of_not_running (s := { u with queue := rest })
      ((hended.aside haside).not_running (hft.aside haside) id) report
    rw [handle, hlate]
  · have hentries := hmanned.entries
    rcases hnotes with ⟨_, he⟩ | ⟨hfirst, _, reason, he⟩
    · rw [he, hentries]
      refine ⟨by split <;> simp, ?_⟩
      rintro rfl
      rw [superseded_obeyCancel, if_pos rfl]
    · rw [hfirst] at hentries
      have hone : u.run.errors.countP isCancelEntry = 1 := by
        rw [he, List.countP_append, hentries, List.countP_singleton, isCancelEntry_reason]
        rfl
      exact ⟨Nat.le_of_eq hone, fun _ => hone⟩

/-- The body of the build ends without having written the image. -/
def shipEmpty : Scheduler := (shipStart.begin.endBody "build" .nothing).2

/-- What a body reports comes behind the other events. -/
theorem queue_endBody {script : BodyScript} {report : BodyReport}
    (h : (s.endBody id script).1 = some report) :
    (s.endBody id script).2.queue = s.queue ++ [.done id report] := by
  revert h
  unfold endBody
  split
  · intro h
    obtain rfl := Option.some.inj h
    rfl
  · intro h
    cases h

theorem untouched_shipStart : Untouched shipStart := by
  obtain ⟨_, _, h⟩ := prepareStart_shipStart
  exact untouched_prepareStart h

theorem course_shipEmpty : Course shipStart shipEmpty :=
  (course_begin fresh_shipStart.framed fresh_shipStart.keyed).trans (course_endBody _ _ _)

theorem a_build_without_its_image_stops_the_run :
    ∃ t, Stoppage shipEmpty (some "build") t ∧
      t.state "build" = .failed ∧ t.state "deploy" = .cancelled ∧
      (∀ j ∈ t.bodies, j.cancelled = true) ∧
      ∀ u, Leads t u → u.started = t.started ∧ u.run.errors.countP isCancelEntry ≤ 1 := by
  have hreported : (shipStart.begin.endBody "build" .nothing).1.isSome = true := by decide +kernel
  have hidle : shipStart.begin.queue.isEmpty = true := by decide +kernel
  have haborted : ∀ report ∈ (shipStart.begin.endBody "build" .nothing).1,
      (complete { shipEmpty with queue := [] } "build" report).fatal = true := by decide +kernel
  have hrunning : shipEmpty.state "build" = .running := by decide +kernel
  have hgoing : shipEmpty.fatal = false := by decide +kernel
  have hopen : (shipEmpty.state "deploy").isTerminal = false := by decide +kernel
  have hdeploy : "deploy" ∈ shipEmpty.graph.order := by decide +kernel
  obtain ⟨report, hreport⟩ := Option.isSome_iff_exists.1 hreported
  have hqueue : shipEmpty.queue = [.done "build" report] := by
    rw [shipEmpty, queue_endBody hreport, List.isEmpty_iff.1 hidle, List.nil_append]
  have hstop : Stoppage shipEmpty (some "build") _ :=
    .breach hqueue hrunning hgoing (haborted report hreport)
  obtain ⟨_, hfailed, hcancelled, _, hbodies, hafter⟩ :=
    a_stop_ends_everything_at_once_and_for_good untouched_shipStart course_shipEmpty hstop
  refine ⟨_, hstop, (hfailed "build" rfl).2, hcancelled "deploy" hdeploy hopen (by simp),
    hbodies, fun u hu => ?_⟩
  obtain ⟨⟨hstarted, _⟩, _, _, _, _, hcount, _⟩ := hafter u hu
  exact ⟨hstarted, hcount⟩

end GatedPipeline.Scheduler
