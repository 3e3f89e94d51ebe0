-- The steps of a calm run: one that is neither aborted nor cancelled, and in
-- which no failure takes others along. With each step at most one instance
-- moves, and if it ends without success there is a reason for it of its own.
import GatedPipeline.Proofs.Run.Stop
namespace GatedPipeline.Scheduler

variable {s t u v : Scheduler} {id : String} {i : Instance}

/-- The run was neither aborted nor cancelled. -/
def Calm (s : Scheduler) : Prop := s.flags = (false, false)

/-- No failure makes others be cancelled. -/
structure Lenient (s : Scheduler) : Prop where
  run : s.failFast = false
  stages : ∀ i, s.graph.instance? i.id = some i → i.template.failFast = false

theorem Lenient.steady (h : Lenient s) (hs : Steady s t) : Lenient t where
  run := hs.failFast.trans h.run
  stages := by
    intro i hi
    rw [show t.graph = s.graph from hs.graph] at hi
    exact h.stages i hi

theorem afterFailure_of_lenient (hr : s.failFast = false) (hi : i.template.failFast = false) :
    s.afterFailure i = s := by
  simp [afterFailure, hr, hi]

theorem not_calm_abort (s : Scheduler) (error : String) : ¬ (s.abort error).Calm := by
  have hflags : (s.abort error).flags = (true, s.superseded) := flags_cancelEach _ _ _
  intro h
  rw [Calm, hflags] at h
  exact absurd (congrArg Prod.fst h) (by simp)

theorem not_calm_obeyCancel (s : Scheduler) : ¬ s.obeyCancel.Calm := by
  have hflags : s.obeyCancel.flags = (s.fatal, true) := flags_cancelEach _ _ _
  intro h
  rw [Calm, hflags] at h
  exact absurd (congrArg Prod.snd h) (by simp)

/-! ## What a step is -/

/-- What a step of a calm run comes to: no instance moves, or one comes forward, or one ends without
success for a reason. -/
inductive Fares (s t : Scheduler) : Prop
  | aside (asks : Asks s t)
  | rise {u : Scheduler} (asks : Asks s u) (rise : Rise s u t)
  | fall {u v : Scheduler} {i : Instance} {r : StageRecord} (asks : Asks s u)
      (known : u.graph.instance? i.id = some i) (falls : Falls s u i r.state)
      (loses : Loses u v i.id r) (rest : Asks v t) (flags : t.flags = s.flags)

theorem Fares.flags (h : Fares s t) : t.flags = s.flags := by
  cases h with
  | aside asks => exact asks.flags
  | rise asks rise => exact rise.flags.trans asks.flags
  | fall _ _ _ _ _ flags => exact flags

/-- A failure that takes no others along. -/
theorem fares_fail {text message : String} {r : StageRecord} (hl : Lenient u) (asks : Asks s u)
    (known : u.graph.instance? i.id = some i) (falls : Falls s u i r.state)
    (loses : Loses u (v.move i.id .failed text) i.id r) (flags : v.flags = s.flags) :
    Fares s (((v.move i.id .failed text).addError message).afterFailure i) := by
  have hrun : ((v.move i.id .failed text).addError message).failFast = false :=
    (hl.steady loses.toSteady).run
  rw [afterFailure_of_lenient hrun (hl.stages i known)]
  exact .fall asks known falls loses ⟨aside_of_rest rfl, rfl⟩
    ((flags_addError _ _).trans ((flags_move _ _ _ _).trans flags))

theorem Looks.fares {c : Bool} (hf : Framed s) (hl : Lenient s)
    (hi : s.graph.instance? i.id = some i) (h : Looks s i (c, t)) (calm : t.Calm) : Fares s t := by
  cases h with
  | idle => exact .aside (asks_refl s)
  | rise asks rise => exact .rise asks rise
  | skip asks waits reason falls =>
    have hknown := asks.instance_eq hi
    exact .fall asks hknown falls (loses_move _ _ ((hf.aside asks.toAside).present hknown)
      (State.not_isTerminal_of_isWaiting waits) rfl (Or.inl ⟨waits, rfl⟩)
      (spills_refl _ _) fun _ => rfl)
      (asks_refl _) ((flags_move _ _ _ _).trans asks.flags)
  | fail asks waits text message falls =>
    have hknown := asks.instance_eq hi
    exact fares_fail (hl.steady asks.toSteady) asks hknown falls
      (loses_move _ _ ((hf.aside asks.toAside).present hknown)
        (State.not_isTerminal_of_isWaiting waits) rfl (Or.inl ⟨waits, rfl⟩)
        (spills_refl _ _) fun _ => rfl)
      asks.flags
  | abort asks error => exact absurd calm (not_calm_abort _ _)
  | crash asks other => exact .aside (asks.trans ⟨aside_crash _ other, rfl⟩)

theorem fares_visit (hf : Framed s) (hk : s.gates.Keyed) (hl : Lenient s) (id : String)
    (calm : (s.visit id).2.Calm) : Fares s (s.visit id).2 := by
  rcases hi : s.graph.instance? id with _ | i
  · simp only [visit, hi]
    exact .aside (asks_refl s)
  · have hlooks := looks_visit hf hk hi
    rcases hv : s.visit id with ⟨c, v⟩
    rw [hv] at hlooks calm
    exact hlooks.fares hf hl (by rwa [hf.id_eq hi]) calm

theorem fares_complete {report : BodyReport} {rest : List Event} (hf : Framed s) (hl : Lenient s)
    (told : s.queue = .done id report :: rest)
    (calm : (complete { s with queue := rest } id report).Calm) :
    Fares s (complete { s with queue := rest } id report) := by
  have hpop : Asks s { s with queue := rest } := ⟨aside_of_rest rfl, rfl⟩
  have hfp := hf.aside hpop.toAside
  by_cases was : s.state id = .running
  case neg =>
    rw [complete_of_not_running (s := { s with queue := rest }) was]
    exact .aside (hpop.trans ⟨aside_forget (s := { s with queue := rest }) was, rfl⟩)
  case pos =>
    obtain ⟨i, rfl, hi⟩ := hf.instance_of_unpending (by rw [was]; simp)
    have was' : state { s with queue := rest } i.id = .running := was
    have htakes := takes_complete hfp hi was' report
    generalize complete { s with queue := rest } i.id report = t at htakes calm
    cases htakes with
    | cancel error status =>
      exact .fall hpop hi (.stopped told was' status)
        (loses_running hfp hi was' (spills_refl _ _) (fun _ => rfl) rfl error) (asks_refl _)
        ((flags_move _ _ _ _).trans hpop.flags)
    | fail text message bad unasked =>
      exact fares_fail (hl.steady hpop.toSteady) hpop hi (.broken told was' bad unasked)
        (loses_running hfp hi was' (spills_refl _ _) (fun _ => rfl) rfl (some text)) hpop.flags
    | breach => exact absurd calm (not_calm_abort _ _)
    | succeed good wrote all => exact .rise hpop (.succeed hi told good was' wrote all)

theorem Step.fares (hf : Framed s) (hk : s.gates.Keyed) (hl : Lenient s) (h : Step s t)
    (calm : t.Calm) : Fares s t := by
  cases h with
  | obey => exact absurd calm (not_calm_obeyCancel s)
  | @take e rest next =>
    cases e with
    | done id report => exact fares_complete hf hl next calm
    | gate | wake => exact .aside ⟨aside_of_rest rfl, rfl⟩
  | expire _ gid => exact .aside ⟨aside_expireGate s _ gid, flags_expireGate s _ gid⟩
  | visit _ id => exact fares_visit hf hk hl id calm
  | start going room able gathered =>
    refine .rise (asks_refl s) (.start (mem_of_state_ne ?_) going room able gathered)
    rw [(ready_of_startable able).1]
    simp
  | starve => exact absurd calm (not_calm_abort _ _)
  | stall => exact absurd calm (not_calm_abort _ _)
  | breakOff => exact .aside ⟨aside_crash s (by simp), rfl⟩
  | finish => exact .aside ⟨aside_finish s, flags_finish s⟩
  | refuse => exact .aside ⟨(aside_crash s (by simp)).trans (aside_of_rest rfl), rfl⟩
  | giveUp => exact .aside ⟨aside_crash s (by simp), rfl⟩
  | cancel reason => exact .aside ⟨aside_of_rest rfl, rfl⟩
  | report id r => exact .aside ⟨aside_of_rest rfl, rfl⟩
  | gates touched heard =>
    exact .aside (Asks.trans ⟨aside_gates s touched.keyed touched.keeps, rfl⟩
      (asks_deliver _ heard))
  | clock now => exact .aside ⟨aside_of_rest rfl, rfl⟩
  | decide => exact .aside (asks_decide s)

/-- What was calm at the end was calm before. -/
theorem Step.calm (hf : Framed s) (hk : s.gates.Keyed) (hl : Lenient s) (h : Step s t)
    (calm : t.Calm) : s.Calm := (h.fares hf hk hl calm).flags.symm.trans calm

end GatedPipeline.Scheduler
