-- Why a run stops, and what the stop does. Whatever the cause, the one step
-- cancels every instance that has not ended, but for the one that is the cause.
import GatedPipeline.Proofs.Run.Course
import GatedPipeline.Proofs.Run.Visible
namespace GatedPipeline.Scheduler

variable {s₀ s t u v e : Scheduler} {id : String} {i : Instance} {culprit : Option String}

/-! ## Why a run stops -/

/-- The step stops the run. Names the instance whose failure is the cause, if there is one. -/
inductive Stoppage (s : Scheduler) : Option String → Scheduler → Prop
  /-- A request to cancel the run is obeyed. -/
  | cancel (asked : s.cancelReason.isSome = true) (first : s.superseded = false) :
      Stoppage s none s.obeyCancel
  /-- The report of a body breaks the contract of its stage, or gives an output twice. -/
  | breach {id : String} {report : BodyReport} {rest : List Event}
      (next : s.queue = .done id report :: rest) (was : s.state id = .running)
      (going : s.fatal = false)
      (aborted : ({ s with queue := rest }.complete id report).fatal = true) :
      Stoppage s (some id) ({ s with queue := rest }.complete id report)
  /-- The tag of the release has been written before. -/
  | duplicate (going : s.halted = false) (id : String) (aborted : (s.visit id).2.fatal = true) :
      Stoppage s none (s.visit id).2
  | starve {id producer key : String} (going : s.halted = false) (able : s.startable id = true)
      (missing : s.gatherInputs id = .error (.missing producer key)) :
      Stoppage s none (s.abort (OutputFault.missing producer key).message)
  | stall (unfinished : s.run.finished = false) (idle : s.stalled = true) :
      Stoppage s none (s.abort s.stalledMessage)
  /-- A body fails, and fail-fast holds for the run. -/
  | failure {id : String} {report : BodyReport} {rest : List Event}
      (next : s.queue = .done id report :: rest) (was : s.state id = .running)
      (strict : s.failFast = true)
      (failed : ({ s with queue := rest }.complete id report).state id = .failed) :
      Stoppage s (some id) ({ s with queue := rest }.complete id report)
  /-- There is no release decision for a stage, and fail-fast holds for the run. -/
  | undecided (going : s.halted = false) {id : String} (unended : (s.state id).isTerminal = false)
      (strict : s.failFast = true) (failed : (s.visit id).2.state id = .failed) :
      Stoppage s (some id) (s.visit id).2

/-- A stop is the work of the scheduler. -/
theorem Stoppage.own (h : Stoppage s culprit t) : Own s t := by
  cases h with
  | cancel asked first => exact .obey asked first
  | breach next => exact .take next
  | duplicate going id => exact .visit going id
  | starve going able missing => exact .starve going able missing
  | stall unfinished idle => exact .stall unfinished idle
  | failure next => exact .take next
  | undecided going => exact .visit going _

/-! ## What a stop does to the instances -/

theorem state_cancelOne (s : Scheduler) (reason id j : String) :
    (s.cancelOne reason id).state j =
      if j = id ∧ (s.state j).isTerminal = false then .cancelled else s.state j := by
  unfold cancelOne
  split
  · rename_i he
    rw [if_neg]
    rintro ⟨rfl, ho⟩
    rw [he] at ho
    cases ho
  · rename_i ho
    have ho' : (s.state id).isTerminal = false := by simpa using ho
    have hmoved := @state_move { s.stopBody id with
      inFlight := (s.stopBody id).inFlight.filter (· ≠ id) } id .cancelled (some reason) ho' j
    refine hmoved.trans ?_
    by_cases hj : j = id
    · subst hj
      rw [if_pos rfl, if_pos ⟨rfl, ho'⟩]
    · rw [if_neg hj, if_neg fun h => hj h.1]
      rfl

theorem state_cancelEach (ids : List String) (reason : String) (s : Scheduler) (j : String) :
    (ids.foldl (fun s id => s.cancelOne reason id) s).state j =
      if j ∈ ids ∧ (s.state j).isTerminal = false then .cancelled else s.state j := by
  induction ids generalizing s with
  | nil => simp
  | cons id ids ih =>
    rw [List.foldl_cons, ih, state_cancelOne]
    by_cases hj : j = id ∧ (s.state j).isTerminal = false
    · rw [if_pos hj, ite_self, if_pos ⟨hj.1 ▸ List.mem_cons_self, hj.2⟩]
    · rw [if_neg hj]
      have hmem : (j ∈ ids ∧ (s.state j).isTerminal = false) ↔
          j ∈ id :: ids ∧ (s.state j).isTerminal = false := by
        rw [List.mem_cons, or_and_right, or_iff_right hj]
      simp only [hmem]

/-- Every instance that had not ended is cancelled, but for the culprit, which has failed. -/
structure Stopped (s t : Scheduler) (culprit : Option String) : Prop where
  failed : ∀ id ∈ culprit, (s.state id).isTerminal = false ∧ t.state id = .failed
  cancelled : ∀ id ∈ s.graph.order, (s.state id).isTerminal = false → culprit ≠ some id →
    t.state id = .cancelled

/-- Once the culprit has failed, all others are cancelled. -/
theorem stopped_cancelAll (hg : v.graph = s.graph)
    (hopen : ∀ id ∈ culprit, (s.state id).isTerminal = false)
    (hv : ∀ id, v.state id = if culprit = some id then .failed else s.state id)
    (reason : String) : Stopped s (v.cancelAll reason) culprit where
  failed := by
    intro id hid
    have hfailed : v.state id = .failed := (hv id).trans (if_pos hid)
    refine ⟨hopen id hid, ?_⟩
    rw [cancelAll, state_cancelEach, hfailed]
    simp [State.isTerminal]
  cancelled := by
    intro id hm ho hne
    have hsame : v.state id = s.state id := by rw [hv, if_neg hne]
    rw [cancelAll, state_cancelEach, hsame, if_pos ⟨hg ▸ hm, ho⟩]

theorem stopped_abort (hg : v.graph = s.graph)
    (hopen : ∀ id ∈ culprit, (s.state id).isTerminal = false)
    (hv : ∀ id, v.state id = if culprit = some id then .failed else s.state id)
    (error : String) : Stopped s (v.abort error) culprit := by
  unfold abort
  refine stopped_cancelAll ?_ hopen ?_ _
  · exact hg
  · exact hv

/-- A look that moved nothing is followed by the abortion of the run. -/
theorem Asks.stopped_abort (h : Asks s v) (error : String) : Stopped s (v.abort error) none :=
  Scheduler.stopped_abort h.graph (fun _ hid => by cases hid) (fun id => by simp [h.state]) error

/-- One instance fails. -/
theorem state_of_failure (hst : v.run.stages = s.run.stages) (ho : (s.state id).isTerminal = false)
    (error : Option String) (j : String) :
    (v.move id .failed error).state j = if some id = some j then .failed else s.state j := by
  rw [state_move (by rwa [state_congr hst]), state_congr hst]
  simp only [Option.some.injEq, eq_comm]

@[simp] theorem graph_move (s : Scheduler) (id : String) (st : State) (error : Option String) :
    (s.move id st error).graph = s.graph := by
  unfold move
  dsimp only
  split <;> rfl

@[simp] theorem failFast_move (s : Scheduler) (id : String) (st : State) (error : Option String) :
    (s.move id st error).failFast = s.failFast := by
  unfold move
  dsimp only
  split <;> rfl

/-- One instance fails, and the run is aborted. -/
theorem stopped_of_breach (hst : v.run.stages = s.run.stages) (hg : v.graph = s.graph)
    (ho : (s.state id).isTerminal = false) (text : Option String) (error : String) :
    Stopped s ((v.move id .failed text).abort error) (some id) :=
  stopped_abort ((graph_move v id .failed text).trans hg) (fun _ hid => Option.some.inj hid ▸ ho)
    (state_of_failure hst ho text) error

/-- One instance fails, and fail-fast holds for the run. -/
theorem stopped_of_failure (hst : v.run.stages = s.run.stages) (hg : v.graph = s.graph)
    (ho : (s.state i.id).isTerminal = false) (strict : v.failFast = true) (text : Option String)
    (message : String) :
    Stopped s (((v.move i.id .failed text).addError message).afterFailure i) (some i.id) := by
  have hstrict : ((v.move i.id .failed text).addError message).failFast = true :=
    (failFast_move v i.id .failed text).trans strict
  unfold afterFailure
  rw [if_pos hstrict]
  refine stopped_cancelAll ?_ (fun _ hid => Option.some.inj hid ▸ ho) ?_ _
  · exact (graph_move v i.id .failed text).trans hg
  · exact state_of_failure hst ho text

theorem failed_of_cancelEach {ids : List String} {reason : String}
    (h : (ids.foldl (fun s id => s.cancelOne reason id) s).state id = .failed) :
    s.state id = .failed := by
  rw [state_cancelEach] at h
  split at h
  · cases h
  · exact h

theorem failed_of_afterFailure (h : (s.afterFailure i).state id = .failed) :
    s.state id = .failed := by
  unfold afterFailure at h
  split at h
  · exact failed_of_cancelEach h
  · split at h
    · exact failed_of_cancelEach h
    · exact h

theorem failed_of_abort {error : String} (h : (s.abort error).state id = .failed) :
    s.state id = .failed := by
  unfold abort cancelAll at h
  have hs := failed_of_cancelEach h
  exact hs

/-- Nobody fails by coming forward. -/
theorem Rise.unfailed (h : Rise e s t) (hf : t.state id = .failed) : s.state id = .failed := by
  have hmove : ∀ (awaiting : List (String × String)) {j : String} {st : State},
      (s.state j).isTerminal = false → (move { s with awaiting } j st).state id = .failed →
      st ≠ .failed → s.state id = .failed := by
    intro awaiting j st ho hm hst
    rw [state_move (s := { s with awaiting }) ho] at hm
    split at hm
    · exact absurd hm hst
    · exact hm
  cases h with
  | block _ was => exact hmove s.awaiting (by rw [was]; rfl) hf (by simp)
  | ready _ was =>
    exact hmove s.awaiting (State.not_isTerminal_of_isWaiting (isWaiting_of_was was)) hf (by simp)
  | wait _ was =>
    exact hmove _ (State.not_isTerminal_of_isWaiting (isWaiting_of_was was)) hf (by simp)
  | pass => exact hf
  | start _ _ _ able =>
    exact hmove s.awaiting (by rw [(ready_of_startable able).1]; rfl) hf (by simp)
  | succeed known _ good was wrote all =>
    rw [complete_of_success known was good wrote all, state_putPair (s := s) _ _ rfl] at hf
    split at hf
    · cases hf
    · exact hf

/-! ## What stops a run in a look or a report -/

theorem flags_fail (s : Scheduler) (i : Instance) (text : Option String) (message : String) :
    (((s.move i.id .failed text).addError message).afterFailure i).flags = s.flags := by simp

/-- A look that aborts the run does nothing else to it. -/
theorem Looks.aborted {c : Bool} (h : Looks s i (c, t)) (going : s.fatal = false)
    (aborted : t.fatal = true) : ∃ v error, Asks s v ∧ t = v.abort error := by
  have hnot : ∀ {w : Scheduler}, w.flags = s.flags → w.fatal ≠ true := by
    intro w hw ha
    rw [fatal_of_flags hw, going] at ha
    cases ha
  cases h with
  | idle => exact absurd aborted (hnot rfl)
  | rise asks rise => exact absurd aborted (hnot (rise.flags.trans asks.flags))
  | skip asks => exact absurd aborted (hnot ((flags_move _ _ _ _).trans asks.flags))
  | fail asks =>
    exact absurd aborted (hnot (by simpa using asks.flags))
  | abort asks error => exact ⟨_, error, asks, rfl⟩
  | crash asks => exact absurd aborted (hnot asks.flags)

/-- Whoever fails in a look is the one that is looked at. -/
theorem Looks.failed {c : Bool} (h : Looks s i (c, t)) (was : s.state id ≠ .failed)
    (failed : t.state id = .failed) : id = i.id ∧ (s.state i.id).isTerminal = false ∧
      ∃ v text message, Asks s v ∧
        t = ((v.move i.id .failed (some text)).addError message).afterFailure i := by
  -- the instance moves after the asking, and the others stay as they are
  have hmove : ∀ {w : Scheduler} {st : State} {error : Option String}, Asks s w →
      (w.state i.id).isWaiting = true → (w.move i.id st error).state id = .failed →
      id = i.id ∧ st = .failed := by
    intro w st error asks waits hm
    rw [state_move (State.not_isTerminal_of_isWaiting waits), asks.state] at hm
    split at hm
    · exact ⟨‹_›, hm⟩
    · exact absurd hm was
  cases h with
  | idle => exact absurd failed was
  | rise asks rise => exact absurd ((asks.state id) ▸ rise.unfailed failed) was
  | skip asks waits reason =>
    have hst := (hmove asks waits failed).2
    cases hst
  | @fail v asks waits text message =>
    have hmoved : ((v.move i.id .failed text).addError message).state id = .failed :=
      failed_of_afterFailure failed
    refine ⟨(hmove asks waits hmoved).1, ?_, v, text, message, asks, rfl⟩
    rw [← asks.state]
    exact State.not_isTerminal_of_isWaiting waits
  | abort asks error => exact absurd ((asks.state id) ▸ failed_of_abort failed) was
  | crash asks => exact absurd ((asks.state id) ▸ failed) was

/-- A report that aborts the run does nothing to it after that. -/
theorem Takes.aborted {report : BodyReport} (hi : s.graph.instance? i.id = some i)
    (was : s.state i.id = .running) (h : Takes s i report t) (going : s.fatal = false)
    (aborted : t.fatal = true) : ∃ (v : Scheduler) (error : String), t = v.abort error := by
  have hnot : t.flags ≠ s.flags := by
    intro hflags
    rw [fatal_of_flags hflags, going] at aborted
    cases aborted
  cases h with
  | cancel error => exact absurd (flags_move _ i.id .cancelled error) hnot
  | fail text message =>
    exact absurd (flags_fail { s with inFlight := s.inFlight.filter (· ≠ i.id) } i (some text)
      message) hnot
  | breach spills text => exact ⟨_, text, rfl⟩
  | succeed good wrote all =>
    rw [complete_of_success hi was good wrote all] at hnot
    exact absurd rfl hnot

theorem Takes.stopped {report : BodyReport} (hi : s.graph.instance? i.id = some i)
    (was : s.state i.id = .running) (h : Takes s i report t)
    (stops : s.fatal = false ∧ t.fatal = true ∨
      s.failFast = true ∧ t.state i.id = .failed) : Stopped s t (some i.id) := by
  have ho : (s.state i.id).isTerminal = false := by rw [was]; rfl
  -- a report that leaves the flag as it is does not abort the run
  have hstops : t.fatal = s.fatal → s.failFast = true ∧ t.state i.id = .failed := by
    intro hsame
    refine stops.resolve_left ?_
    rintro ⟨going, aborted⟩
    rw [hsame, going] at aborted
    cases aborted
  cases h with
  | cancel error =>
    obtain ⟨_, failed⟩ := hstops (fatal_of_flags (flags_move
      { s with inFlight := s.inFlight.filter (· ≠ i.id) } i.id .cancelled error))
    have hmoved := @state_move { s with inFlight := s.inFlight.filter (· ≠ i.id) }
      i.id .cancelled error ho i.id
    rw [failed, if_pos rfl] at hmoved
    cases hmoved
  | fail text message =>
    have hflags := (flags_afterFailure ((move { s with inFlight := s.inFlight.filter (· ≠ i.id) }
      i.id .failed text).addError message) i).trans (flags_move _ i.id .failed text)
    obtain ⟨strict, _⟩ := hstops (fatal_of_flags hflags)
    refine stopped_of_failure ?_ ?_ ho ?_ _ _
    · rfl
    · rfl
    · exact strict
  | breach spills text =>
    refine stopped_of_breach ?_ ?_ ho _ _
    · rfl
    · rfl
  | succeed good wrote all =>
    have heq := complete_of_success hi was good wrote all
    obtain ⟨_, failed⟩ := hstops (by rw [heq])
    rw [heq, state_putPair (s := s) _ _ rfl, if_pos rfl] at failed
    cases failed

/-- A report that aborts the run, or that fails an instance where fail-fast holds for the run, ends
all others. -/
theorem stopped_complete (hf : Framed s) (was : s.state id = .running) {report : BodyReport}
    (stops : s.fatal = false ∧ (s.complete id report).fatal = true ∨
      s.failFast = true ∧ (s.complete id report).state id = .failed) :
    Stopped s (s.complete id report) (some id) := by
  obtain ⟨i, rfl, hi⟩ := hf.instance_of_unpending (by rw [was]; simp)
  exact (takes_complete hf hi was report).stopped hi was stops

theorem complete_aborted (hf : Framed s) (was : s.state id = .running) {report : BodyReport}
    (going : s.fatal = false) (aborted : (s.complete id report).fatal = true) :
    ∃ (v : Scheduler) (error : String), s.complete id report = v.abort error := by
  obtain ⟨i, rfl, hi⟩ := hf.instance_of_unpending (by rw [was]; simp)
  exact (takes_complete hf hi was report).aborted hi was going aborted

theorem looks_of_visit (hf : Framed s) (hk : s.gates.Keyed) (h : (s.visit id).2 ≠ s) :
    ∃ i, i.id = id ∧ Looks s i ((s.visit id).1, (s.visit id).2) := by
  rcases hi : s.graph.instance? id with _ | i
  · exact absurd (by simp only [visit, hi]) h
  · exact ⟨i, hf.id_eq hi, looks_visit hf hk hi⟩

theorem visit_aborted (hf : Framed s) (hk : s.gates.Keyed) (going : s.halted = false)
    (aborted : (s.visit id).2.fatal = true) :
    ∃ v error, Asks s v ∧ (s.visit id).2 = v.abort error := by
  have hgoing := unaborted_of_going going
  have hne : (s.visit id).2 ≠ s := by
    intro heq
    rw [heq, hgoing] at aborted
    cases aborted
  obtain ⟨i, rfl, hlooks⟩ := looks_of_visit hf hk hne
  exact hlooks.aborted hgoing aborted

theorem visit_failed (hf : Framed s) (hk : s.gates.Keyed) {j : String} (was : s.state j ≠ .failed)
    (failed : (s.visit id).2.state j = .failed) :
    ∃ i v text message, i.id = id ∧ j = id ∧ (s.state id).isTerminal = false ∧ Asks s v ∧
      (s.visit id).2 = ((v.move i.id .failed (some text)).addError message).afterFailure i := by
  obtain ⟨i, rfl, hlooks⟩ := looks_of_visit hf hk fun heq => was (heq ▸ failed)
  obtain ⟨rfl, ho, v, text, message, asks, ht⟩ := hlooks.failed was failed
  exact ⟨i, v, text, message, rfl, rfl, ho, asks, ht⟩

/-! ## A stop is all or nothing -/

theorem Stoppage.stopped (hf : Framed s) (hk : s.gates.Keyed) (h : Stoppage s culprit t) :
    Stopped s t culprit := by
  cases h with
  | cancel =>
    unfold obeyCancel
    refine stopped_cancelAll ?_ (fun _ hid => by cases hid) ?_ _
    · rfl
    · exact fun _ => rfl
  | @breach _ _ rest _ was going aborted =>
    obtain ⟨hfailed, hcancelled⟩ := stopped_complete (hf.rest rest) was (Or.inl ⟨going, aborted⟩)
    exact ⟨hfailed, hcancelled⟩
  | @failure _ _ rest _ was strict failed =>
    obtain ⟨hfailed, hcancelled⟩ := stopped_complete (hf.rest rest) was (Or.inr ⟨strict, failed⟩)
    exact ⟨hfailed, hcancelled⟩
  | starve | stall => exact (asks_refl s).stopped_abort _
  | duplicate going id aborted =>
    obtain ⟨v, error, asks, ht⟩ := visit_aborted hf hk going aborted
    rw [ht]
    exact asks.stopped_abort error
  | undecided going ho strict failed =>
    obtain ⟨i, v, text, message, rfl, _, _, asks, ht⟩ := visit_failed hf hk (fun hs => by
      rw [hs] at ho
      cases ho) failed
    rw [ht]
    exact stopped_of_failure asks.stages asks.graph ho (asks.failFast.trans strict) _ _

/-! ## What is visible of others -/

theorem publishedOf_congr {o o' : OutputStore} (h : o'.published = o.published) (id : String) :
    o'.publishedOf id = o.publishedOf id := by
  rw [OutputStore.publishedOf, OutputStore.publishedOf, h]

theorem peek?_congr {o o' : OutputStore} (h : o'.published = o.published) (id k : String) :
    o'.peek? id k = o.peek? id k := by
  rw [OutputStore.peek?, OutputStore.peek?, publishedOf_congr h]

theorem published_abort (s : Scheduler) (error : String) :
    (s.abort error).run.outputs.published = s.run.outputs.published :=
  congrArg (·.2.2) (desk_abort s error)

theorem published_fail (s : Scheduler) (i : Instance) (text : Option String) (message : String) :
    (((s.move i.id .failed text).addError message).afterFailure i).run.outputs.published =
      s.run.outputs.published := by
  have hmoved : (s.move i.id .failed text).run.outputs.published = s.run.outputs.published :=
    published_of_desk (desk_move s i.id .failed text)
  exact (published_of_desk (desk_afterFailure _ i)).trans hmoved

theorem publishedOf_succeed (s : Scheduler) (i : Instance) (reported : List (String × Value))
    (hid : id ≠ i.id) :
    (s.succeed i reported).run.outputs.publishedOf id = s.run.outputs.publishedOf id := by
  have hstaged := @publishedOf_stageOutputs i s.run.outputs reported id (Or.inl hid)
  unfold succeed
  dsimp only
  generalize stageOutputs i s.run.outputs reported = staged at hstaged ⊢
  obtain ⟨outputs, fault⟩ := staged
  dsimp only at hstaged ⊢
  have hbreach : ∀ text : String, ((move { s with run := { s.run with outputs } } i.id .failed
      text).abort text).run.outputs.publishedOf id = outputs.publishedOf id := fun text =>
    publishedOf_congr ((published_abort _ text).trans (published_of_desk
      (desk_move { s with run := { s.run with outputs } } i.id .failed text))) id
  rw [← hstaged]
  split
  · exact hbreach _
  · rfl
  · split
    · rw [OutputStore.publishedOf_commit, if_neg hid]
      exact publishedOf_congr (published_of_desk (desk_move { s with run := { s.run with
        outputs
        stages := putPair i.id { s.run.record i.id with outputs := outputs.stagedOf i.id }
          s.run.stages } } i.id .succeeded none)) id
    · exact hbreach _

/-- A report shows nothing of other instances. -/
theorem publishedOf_complete (hf : Framed s) {j : String} (hj : j ≠ id) (report : BodyReport) :
    (s.complete id report).run.outputs.publishedOf j = s.run.outputs.publishedOf j := by
  unfold complete
  dsimp only
  split
  · rfl
  · rename_i i hi
    obtain rfl := hf.id_eq hi
    split
    · rfl
    · split
      · exact publishedOf_congr (published_of_desk (desk_move _ _ _ _)) j
      · exact publishedOf_succeed _ i _ hj
      · exact publishedOf_congr (published_fail _ i _ _) j

theorem Stoppage.peek? (hf : Framed s) (hk : s.gates.Keyed) (h : Stoppage s culprit t)
    (hid : culprit ≠ some id) {k : String} (hkey : OwnKey id k) :
    t.run.outputs.peek? id k = s.run.outputs.peek? id k := by
  have hreport : ∀ {j : String} {report : BodyReport} {rest : List Event}, some j ≠ some id →
      ({ s with queue := rest }.complete j report).run.outputs.peek? id k =
        s.run.outputs.peek? id k := by
    intro j report rest hj
    rw [OutputStore.peek?, publishedOf_complete (hf.rest rest) fun he => hj (congrArg some he.symm)]
    rfl
  cases h with
  | cancel =>
    obtain ⟨_, hd⟩ := desk_obeyCancel s
    exact peek?_congr (congrArg (·.2.2) hd) id k
  | breach | failure => exact hreport hid
  | starve | stall => exact peek?_congr (published_abort s _) id k
  | duplicate going j aborted =>
    obtain ⟨v, error, asks, ht⟩ := visit_aborted hf hk going aborted
    rw [ht, peek?_congr (published_abort v error), asks.outputs.peek? hkey]
  | @undecided going j ho strict failed =>
    obtain ⟨i, v, text, message, _, _, _, asks, ht⟩ := visit_failed hf hk (fun hs => by
      rw [hs] at ho
      cases ho) failed
    rw [ht, peek?_congr (published_fail v i _ _), asks.outputs.peek? hkey]

/-! ## There is no other way -/

theorem flags_abort (s : Scheduler) (error : String) :
    (s.abort error).flags = (true, s.superseded) := flags_cancelEach _ _ _

theorem Takes.failed {report : BodyReport} {j : String} (hi : s.graph.instance? i.id = some i)
    (was : s.state i.id = .running) (h : Takes s i report t) (hj : s.state j ≠ .failed)
    (failed : t.state j = .failed) : j = i.id := by
  have ho : (s.state i.id).isTerminal = false := by rw [was]; rfl
  have hmove : ∀ {w : Scheduler} {st : State} {error : Option String},
      (w.move i.id st error).state j = .failed → w.run.stages = s.run.stages → j = i.id := by
    intro w st error hm hw
    rw [state_move (by rwa [state_congr hw]), state_congr hw] at hm
    split at hm
    · assumption
    · exact absurd hm hj
  cases h with
  | cancel error => exact hmove failed rfl
  | fail text message =>
    have hmoved := failed_of_afterFailure failed
    exact hmove (w := { s with inFlight := s.inFlight.filter (· ≠ i.id) }) hmoved rfl
  | breach spills text => exact hmove (failed_of_abort failed) rfl
  | succeed good wrote all =>
    rw [complete_of_success hi was good wrote all, state_putPair (s := s) _ _ rfl] at failed
    split at failed
    · assumption
    · exact absurd failed hj

theorem Takes.superseded {report : BodyReport} (hi : s.graph.instance? i.id = some i)
    (was : s.state i.id = .running) (h : Takes s i report t) : t.superseded = s.superseded := by
  cases h with
  | cancel error =>
    exact superseded_of_flags (flags_move { s with inFlight := s.inFlight.filter (· ≠ i.id) } i.id
      .cancelled error)
  | fail text message =>
    exact superseded_of_flags (flags_fail { s with inFlight := s.inFlight.filter (· ≠ i.id) } i
      (some text) message)
  | @breach o spills text =>
    refine (congrArg Prod.snd (flags_abort _ text)).trans (superseded_of_flags (flags_move { s with
      inFlight := s.inFlight.filter (· ≠ i.id), run := { s.run with outputs := o } } i.id .failed
      (some text)))
  | succeed good wrote all => rw [complete_of_success hi was good wrote all]

/-- The report of a running instance is no request to cancel, and fails no other instance. -/
theorem failed_of_complete (hf : Framed s) (was : s.state id = .running) (report : BodyReport) :
    (s.complete id report).superseded = s.superseded ∧
      ∀ j, s.state j ≠ .failed → (s.complete id report).state j = .failed → j = id := by
  obtain ⟨i, rfl, hi⟩ := hf.instance_of_unpending (by rw [was]; simp)
  have htakes := takes_complete hf hi was report
  exact ⟨htakes.superseded hi was, fun j => htakes.failed hi was⟩

theorem Looks.superseded {c : Bool} (h : Looks s i (c, t)) : t.superseded = s.superseded := by
  cases h with
  | idle => rfl
  | rise asks rise => exact superseded_of_flags (rise.flags.trans asks.flags)
  | skip asks => exact superseded_of_flags ((flags_move _ _ _ _).trans asks.flags)
  | @fail v asks _ text message =>
    exact superseded_of_flags ((flags_fail v i (some text) message).trans asks.flags)
  | abort asks error =>
    exact (congrArg Prod.snd (flags_abort _ error)).trans (superseded_of_flags asks.flags)
  | crash asks => exact superseded_of_flags asks.flags

/-- There is no other way in which a run is cancelled or aborted, or in which a stage fails where
fail-fast holds for the run. -/
theorem Step.stoppage (h₀ : Poised s₀) (h : Leads s₀ s) (hstep : Step s t)
    (hstop : s.superseded = false ∧ t.superseded = true ∨ s.fatal = false ∧ t.fatal = true ∨
      s.failFast = true ∧ ∃ id, s.state id ≠ .failed ∧ t.state id = .failed) :
    ∃ culprit, Stoppage s culprit t := by
  obtain ⟨hf, hk⟩ := h.framed h₀.framed h₀.keyed
  -- a step that moves nobody and leaves the flags alone is no stop
  have hquiet : t.flags = s.flags → (∀ id, t.state id = .failed → s.state id = .failed) →
      False := by
    intro hflags hstate
    obtain ⟨hfatal, hsuper⟩ := Prod.mk.inj hflags
    rcases hstop with ⟨hs, ht⟩ | ⟨hs, ht⟩ | ⟨_, id, hs, ht⟩
    · rw [hsuper, hs] at ht
      cases ht
    · rw [hfatal, hs] at ht
      cases ht
    · exact hs (hstate id ht)
  have hasks : Asks s t → False := fun ha =>
    hquiet ha.flags fun id hm => (ha.state id) ▸ hm
  have haside : Aside s t → t.flags = s.flags → False := fun ha hflags => hasks ⟨ha, hflags⟩
  cases hstep with
  | obey asked first => exact ⟨none, .cancel asked first⟩
  | @take e rest next =>
    cases e with
    | gate | wake => exact (haside (aside_of_rest rfl) rfl).elim
    | done id report =>
      by_cases was : s.state id = .running
      · obtain ⟨hsuper, hfailed⟩ := failed_of_complete (hf.rest rest) was report
        rcases hstop with ⟨hs, ht⟩ | ⟨hs, ht⟩ | ⟨strict, j, hs, ht⟩
        · rw [handle, hsuper, hs] at ht
          cases ht
        · exact ⟨some id, .breach next was hs ht⟩
        · obtain rfl := hfailed j hs ht
          exact ⟨some j, .failure next was strict ht⟩
      · have hlate := complete_of_not_running (s := { s with queue := rest }) was report
        rw [handle, hlate] at hquiet
        exact (hquiet rfl fun _ hm => hm).elim
  | visit going id =>
    rcases hstop with ⟨hs, ht⟩ | ⟨_, ht⟩ | ⟨strict, j, hs, ht⟩
    · obtain ⟨i, rfl, hlooks⟩ := looks_of_visit hf hk fun heq => by
        rw [heq, hs] at ht
        cases ht
      rw [hlooks.superseded, hs] at ht
      cases ht
    · exact ⟨none, .duplicate going id ht⟩
    · obtain ⟨_, _, _, _, _, rfl, ho, _, _⟩ := visit_failed hf hk hs ht
      exact ⟨some j, .undecided going ho strict ht⟩
  | starve going able missing => exact ⟨none, .starve going able missing⟩
  | stall unfinished idle => exact ⟨none, .stall unfinished idle⟩
  | start going room able gathered =>
    refine (hquiet (flags_move _ _ _ _) fun id hm => ?_).elim
    have hpresent := mem_of_state_ne (s := s) (by rw [(ready_of_startable able).1]; simp)
    exact (Rise.start (e := s) hpresent going room able gathered).unfailed hm
  | expire _ gid => exact (haside (aside_expireGate s _ gid) (flags_expireGate s _ gid)).elim
  | finish => exact (haside (aside_finish s) (flags_finish s)).elim
  | breakOff | refuse | giveUp | cancel | report | clock => exact (hquiet rfl fun _ hm => hm).elim
  | gates touched heard =>
    have htable := aside_gates s touched.keyed touched.keeps
    exact (hasks ((Asks.mk htable rfl).trans (asks_deliver _ heard))).elim
  | decide => exact (hasks (asks_decide s)).elim

end GatedPipeline.Scheduler
