-- A run that is stopped has ended. Whatever aborts or cancels the run ends
-- every instance before anything else can happen.
import GatedPipeline.Proofs.Run.Lifecycle
namespace GatedPipeline.Scheduler

variable {s₀ s t e : Scheduler} {id : String} {i : Instance}

/-! ## The flags of a run -/

theorem fatal_of_flags (h : t.flags = s.flags) : t.fatal = s.fatal := congrArg Prod.fst h

theorem superseded_of_flags (h : t.flags = s.flags) : t.superseded = s.superseded :=
  congrArg Prod.snd h

@[simp] theorem flags_addError (s : Scheduler) (text : String) :
    (s.addError text).flags = s.flags := rfl

@[simp] theorem flags_cancelOne (s : Scheduler) (reason : String) (id : String) :
    (s.cancelOne reason id).flags = s.flags := by
  unfold cancelOne
  split
  · rfl
  · exact flags_move _ _ _ _

@[simp] theorem flags_cancelEach (ids : List String) (reason : String) (s : Scheduler) :
    (ids.foldl (fun s id => s.cancelOne reason id) s).flags = s.flags := by
  induction ids generalizing s with
  | nil => rfl
  | cons id ids ih => simp [ih]

@[simp] theorem flags_afterFailure (s : Scheduler) (i : Instance) :
    (s.afterFailure i).flags = s.flags := by
  unfold afterFailure cancelAll
  split
  · simp
  · split <;> simp

theorem Rise.flags (h : Rise e s t) : t.flags = s.flags := by
  cases h with
  | succeed known _ good was wrote all =>
    rw [complete_of_success known was good wrote all]
    rfl
  | pass => rfl
  | _ => exact flags_move _ _ _ _

/-! ## Stopping -/

/-- Every instance has ended. -/
def AllEnded (s : Scheduler) : Prop := ∀ id ∈ s.graph.order, (s.state id).isTerminal = true

theorem Wanes.ended (h : Wanes s t) (he : (s.state id).isTerminal = true) :
    (t.state id).isTerminal = true := by
  induction h with
  | refl => exact he
  | tail _ hw ih =>
    rw [(hw.logs.forward id).2 ih]
    exact ih

/-- Cancelled instances have ended. -/
theorem ended_cancelEach {ids : List String} (hf : Framed s)
    (hids : ∀ id ∈ ids, id ∈ s.graph.order) (reason : String) :
    ∀ id ∈ ids,
      ((ids.foldl (fun s id => s.cancelOne reason id) s).state id).isTerminal = true := by
  induction ids generalizing s with
  | nil => exact fun _ hm => by cases hm
  | cons j ids ih =>
    have hone := wanes_cancelOne hf (hids j List.mem_cons_self) reason
    have hrest : ∀ id ∈ ids, id ∈ (s.cancelOne reason j).graph.order := by
      intro id hm
      rw [show (s.cancelOne reason j).graph = s.graph from hone.steady.graph]
      exact hids id (List.mem_cons_of_mem _ hm)
    intro id hm
    rcases List.mem_cons.1 hm with rfl | hm
    · refine (wanes_cancelEach (hf.wanes hone) hrest reason).ended ?_
      unfold cancelOne
      split
      · assumption
      · rename_i ho
        have ho' : (s.state id).isTerminal = false := by simpa using ho
        have hmoved := @state_move { s.stopBody id with
          inFlight := (s.stopBody id).inFlight.filter (· ≠ id) } id .cancelled (some reason) ho' id
        rw [if_pos rfl] at hmoved
        exact congrArg State.isTerminal hmoved
    · exact ih (hf.wanes hone) hrest id hm

theorem allEnded_cancelAll (hf : Framed s) (reason : String) : AllEnded (s.cancelAll reason) := by
  intro id hm
  rw [show (s.cancelAll reason).graph = s.graph from (wanes_cancelAll hf reason).steady.graph] at hm
  exact ended_cancelEach hf (fun _ h => h) reason id hm

theorem allEnded_abort (hf : Framed s) (error : String) : AllEnded (s.abort error) :=
  allEnded_cancelAll (hf.wanes ((aside_fatal s).wanes.trans (wanes_addError _ error))) _

theorem allEnded_obeyCancel (hf : Framed s) : AllEnded s.obeyCancel := by
  have hflag : ∀ text, Wanes s ({ s with superseded := true }.addError text) :=
    fun _ => (aside_of_rest rfl).wanes
  exact allEnded_cancelAll (hf.wanes (hflag _)) _

/-- The run goes on as before, or everything has ended. -/
def Stops (s t : Scheduler) : Prop := t.flags = s.flags ∨ AllEnded t

theorem Looks.stops {c : Bool} (hf : Framed s) (h : Looks s i (c, t)) : Stops s t := by
  cases h with
  | idle => exact Or.inl rfl
  | rise asks rise => exact Or.inl (rise.flags.trans asks.flags)
  | skip asks => exact Or.inl ((flags_move _ _ _ _).trans asks.flags)
  | fail asks => exact Or.inl (by simpa using asks.flags)
  | abort asks error => exact Or.inr (allEnded_abort (hf.aside asks.toAside) error)
  | crash asks => exact Or.inl asks.flags

theorem stops_visit (hf : Framed s) (hk : s.gates.Keyed) (id : String) :
    Stops s (s.visit id).2 := by
  rcases hi : s.graph.instance? id with _ | i
  · simp only [visit, hi]
    exact Or.inl rfl
  · have hlooks := looks_visit hf hk hi
    rcases hv : s.visit id with ⟨c, v⟩
    rw [hv] at hlooks
    exact hlooks.stops hf

/-- A breach of contract aborts the run, whatever was staged. -/
theorem allEnded_breach (hf : Framed s) (hi : s.graph.instance? i.id = some i)
    (was : s.state i.id = .running) {o : OutputStore} (ho : o.ended = s.run.outputs.ended)
    (text : String) :
    AllEnded ((move { s with
      inFlight := s.inFlight.filter (· ≠ i.id), run := { s.run with outputs := o } }
      i.id .failed text).abort text) := by
  -- what was staged counts for nothing here, so the move starts from the outputs as written
  have hwritten : Framed { s with run := { s.run with outputs := o } } :=
    ⟨hf.sound, hf.keys, fun q hq => hf.ended q (ho ▸ hq)⟩
  have hlost := loses_running hwritten hi was (spills_refl _ _) (fun _ => rfl)
    (show State.failed.isLost = true from rfl) (some text)
  exact allEnded_abort (hwritten.wane (.lose hlost)) _

theorem Takes.stops {report : BodyReport} (hf : Framed s) (hi : s.graph.instance? i.id = some i)
    (was : s.state i.id = .running) (h : Takes s i report t) : Stops s t := by
  cases h with
  | cancel => exact Or.inl (flags_move _ _ _ _)
  | fail => exact Or.inl (by simp; rfl)
  | breach spills text => exact Or.inr (allEnded_breach hf hi was spills.ended text)
  | succeed good wrote all =>
    rw [complete_of_success hi was good wrote all]
    exact Or.inl rfl

theorem stops_complete (hf : Framed s) (id : String) (report : BodyReport) :
    Stops s (s.complete id report) := by
  by_cases was : s.state id = .running
  case neg =>
    rw [complete_of_not_running was]
    exact Or.inl rfl
  case pos =>
    obtain ⟨i, rfl, hi⟩ := hf.instance_of_unpending (by rw [was]; simp)
    exact (takes_complete hf hi was report).stops hf hi was

/-! ## Every step -/

theorem flags_expireGate (s : Scheduler) (span : Time) (gid : String) :
    (s.expireGate span gid).flags = s.flags := by
  unfold expireGate
  split
  · rfl
  · split
    · split
      · exact (asks_deliver _ _).flags
      · rfl
    · rfl

theorem flags_finish (s : Scheduler) : s.finish.flags = s.flags := by
  have hclean : s.cleanUp.flags = s.flags := (asks_deliver _ _).flags
  unfold finish
  dsimp only
  split <;> exact hclean

theorem Step.stops (hf : Framed s) (hk : s.gates.Keyed) (h : Step s t) : Stops s t := by
  cases h with
  | obey => exact Or.inr (allEnded_obeyCancel hf)
  | @take e rest next =>
    cases e with
    | done id report =>
      have hpop := hf.rest rest
      exact stops_complete hpop id report
    | gate | wake => exact Or.inl rfl
  | expire _ gid => exact Or.inl (flags_expireGate s _ gid)
  | visit _ id => exact stops_visit hf hk id
  | start => exact Or.inl (flags_move _ _ _ _)
  | starve => exact Or.inr (allEnded_abort hf _)
  | stall => exact Or.inr (allEnded_abort hf _)
  | finish => exact Or.inl (flags_finish s)
  | breakOff | refuse | giveUp | cancel | report | clock => exact Or.inl rfl
  | gates _ heard => exact Or.inl (asks_deliver _ heard).flags
  | decide => exact Or.inl (asks_decide s).flags

/-- Every instance of a run that was aborted or cancelled has ended. -/
theorem Leads.allEnded (h₀ : Poised s₀) (h : Leads s₀ s)
    (hstop : s.fatal = true ∨ s.superseded = true) : AllEnded s := by
  induction h with
  | refl => simp [h₀.fatal, h₀.superseded] at hstop
  | @tail u v hlead hstep ih =>
    obtain ⟨hf, hk⟩ := Leads.framed h₀.framed h₀.keyed hlead
    -- either the step leaves the flags alone, and ends stay, or it ends everything itself
    rcases hstep.stops hf hk with hflags | hended
    · obtain ⟨hfatal, hsuper⟩ := Prod.mk.inj hflags
      rw [hfatal, hsuper] at hstop
      have hg : v.graph = u.graph := (hstep.leads.steady hf hk).graph
      intro id hm
      have he := ih hstop id (hg ▸ hm)
      rw [(hstep.forward hf hk id).2 he]
      exact he
    · exact hended

end GatedPipeline.Scheduler
