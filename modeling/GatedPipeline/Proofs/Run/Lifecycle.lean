-- The life of an instance. It only comes forward, ends once and is started at
-- most once; the scheduler waits for the bodies of just those instances that
-- are running, and what it writes down and reports tells the same story.
import GatedPipeline.Proofs.Run.Launch
namespace GatedPipeline.Scheduler

variable {s₀ s t e : Scheduler} {id : String}

/-! ## Waiting for bodies and gates -/

/-- The bodies that the scheduler waits for are those of the running instances, there is room for
them, and only a ready instance waits for a gate. -/
structure Tidy (s : Scheduler) : Prop where
  nodup : s.inFlight.Nodup
  running : ∀ id, id ∈ s.inFlight ↔ s.state id = .running
  room : s.inFlight = [] ∨ (s.inFlight.length : Int) ≤ s.maxParallel
  awaiting : ∀ id gid, getPair? id s.awaiting = some gid → s.state id = .ready

theorem Poised.tidy (h : Poised s) : Tidy s where
  nodup := by simp [h.inFlight]
  running := by
    intro id
    rw [h.inFlight]
    rcases h.state id with hs | hs <;> simp [hs]
  room := Or.inl h.inFlight
  awaiting := by
    intro id gid hg
    rw [h.awaiting] at hg
    cases hg

/-- There is no less room when fewer bodies are waited for. -/
theorem room_of_sublist {l l' : List String} {n : Int} (h : l = [] ∨ (l.length : Int) ≤ n)
    (hs : l'.Sublist l) : l' = [] ∨ (l'.length : Int) ≤ n := by
  rcases h with rfl | h
  · exact Or.inl (List.sublist_nil.1 hs)
  · have := hs.length_le
    exact Or.inr (by omega)

theorem Tidy.aside (h : Tidy s) (ha : Aside s t) : Tidy t where
  nodup := h.nodup.sublist ha.inFlight
  running := by
    intro id
    rw [ha.state, ← h.running]
    exact ⟨fun hm => ha.inFlight.subset hm, fun hm => ha.running ((h.running id).1 hm) hm⟩
  room := by
    rw [ha.maxParallel]
    exact room_of_sublist h.room ha.inFlight
  awaiting := by
    intro id gid hg
    rw [ha.state]
    exact h.awaiting id gid (ha.awaiting ▸ hg)

/-- A move keeps order if the instance is waited for just when it runs, and waits for a gate only
when it is ready. -/
theorem Tidy.moves {r : StageRecord} {after : List Effect} (h : Tidy s) (hm : Moves s t id r after)
    (hn : t.inFlight.Nodup) (hr : ∀ j, j ∈ t.inFlight ↔ if j = id then r.state = .running
      else j ∈ s.inFlight)
    (hroom : t.inFlight = [] ∨ (t.inFlight.length : Int) ≤ s.maxParallel)
    (ha : ∀ j gid, getPair? j t.awaiting = some gid →
      if j = id then r.state = .ready else getPair? j s.awaiting = some gid) : Tidy t where
  nodup := hn
  running := by
    intro j
    rw [hr, hm.state]
    split
    · rfl
    · exact h.running j
  room := by rwa [hm.maxParallel]
  awaiting := by
    intro j gid hg
    have hj := ha j gid hg
    rw [hm.state]
    split at hj
    · rename_i hid
      rwa [if_pos hid]
    · rename_i hid
      rw [if_neg hid]
      exact h.awaiting j gid hj

/-- When the instance is not running before and after, the bodies in flight may stay. -/
theorem mem_inFlight_iff (h : Tidy s) {r : StageRecord} (hs : s.state id ≠ .running)
    (hr : r.state ≠ .running) (j : String) :
    j ∈ s.inFlight ↔ if j = id then r.state = .running else j ∈ s.inFlight := by
  split
  · rename_i hj
    subst hj
    exact ⟨fun hm => absurd ((h.running _).1 hm) hs, fun he => absurd he hr⟩
  · rfl

theorem mem_filter_iff {r : StageRecord} (l : List String) (hr : r.state ≠ .running) (j : String) :
    j ∈ l.filter (· ≠ id) ↔ if j = id then r.state = .running else j ∈ l := by
  split
  · rename_i hj
    subst hj
    simp [hr]
  · rename_i hj
    simp [hj]

theorem Tidy.wane (h : Tidy s) (hw : Wane s t) : Tidy t := by
  rcases hw with ha | @⟨id, r, hl⟩
  · exact h.aside ha
  · have hr : r.state ≠ .running := by
      intro hr
      have hlost := hl.lost
      rw [hr] at hlost
      cases hlost
    have hawait : ∀ j gid, getPair? j t.awaiting = some gid →
        if j = id then r.state = .ready else getPair? j s.awaiting = some gid := by
      intro j gid hg
      rw [hl.awaiting, getPair?_dropPair] at hg
      split at hg
      · cases hg
      · rename_i hj
        rwa [if_neg hj]
    rcases hl.inFlight with ⟨hwait, hin⟩ | hin
    · refine h.moves hl.toMoves (hin ▸ h.nodup) ?_ (hin ▸ h.room) hawait
      intro j
      rw [hin]
      refine mem_inFlight_iff h ?_ hr j
      intro hs
      rw [hs] at hwait
      cases hwait
    · refine h.moves hl.toMoves (hin ▸ h.nodup.filter _) ?_ ?_ hawait
      · intro j
        rw [hin]
        exact mem_filter_iff _ hr j
      · rw [hin]
        exact room_of_sublist h.room List.filter_sublist

/-- An instance that does not run moves on and waits. -/
theorem tidy_move {awaiting : List (String × String)} {st : State} (h : Tidy s)
    (hp : id ∈ s.run.stages.map (·.1)) (hw : (s.state id).isWaiting = true)
    (hst : st.isTerminal = false) (hr : st ≠ .running)
    (ha : ∀ j gid, getPair? j awaiting = some gid →
      if j = id then st = .ready else getPair? j s.awaiting = some gid) :
    Tidy (move { s with awaiting } id st) := by
  have ho := State.not_isTerminal_of_isWaiting hw
  have hm := moves_move s s.inFlight awaiting s.run.outputs st none hp ho
  have he := @move_of_unended { s with awaiting } id st none ho hst
  have hnot : s.state id ≠ .running := by
    intro hs
    rw [hs] at hw
    cases hw
  refine h.moves hm ?_ ?_ ?_ ?_
  · exact he ▸ h.nodup
  · intro j
    rw [show (move { s with awaiting } id st).inFlight = s.inFlight by rw [he]]
    exact mem_inFlight_iff h hnot hr j
  · exact he ▸ h.room
  · intro j gid hg
    rw [show (move { s with awaiting } id st).awaiting = awaiting by rw [he]] at hg
    exact ha j gid hg

/-- An instance that is no longer pending or blocked waited for no gate before. -/
theorem Tidy.awaiting_of_was (h : Tidy s) (was : s.state id = .pending ∨ s.state id = .blocked)
    {st : State} (j gid : String) (hg : getPair? j s.awaiting = some gid) :
    if j = id then st = .ready else getPair? j s.awaiting = some gid := by
  split
  · rename_i hj
    subst hj
    have hready := h.awaiting j gid hg
    rcases was with was | was <;> rw [was] at hready <;> cases hready
  · exact hg

theorem Tidy.rise (hf : Framed s) (h : Tidy s) (hr : Rise e s t) : Tidy t := by
  cases hr with
  | block present was =>
    exact tidy_move h present (isWaiting_of_was (Or.inl was)) rfl (by simp)
      (h.awaiting_of_was (Or.inl was))
  | ready known was =>
    exact tidy_move h (hf.present known) (isWaiting_of_was was) rfl (by simp)
      (h.awaiting_of_was was)
  | @wait i name _ known was =>
    refine tidy_move h (hf.present known) (isWaiting_of_was was) rfl (by simp) ?_
    intro j gid hg
    rw [getPair?_putPair] at hg
    split
    · rfl
    · rename_i hj
      rwa [if_neg hj] at hg
  | pass was waits =>
    refine { h with awaiting := ?_ }
    intro j gid hg
    rw [getPair?_dropPair] at hg
    split at hg
    · cases hg
    · exact h.awaiting j gid hg
  | @start id inputs present going room able =>
    obtain ⟨was, hnone⟩ := ready_of_startable able
    have hnot : id ∉ s.inFlight := by
      rw [h.running, was]
      simp
    have heq := start_eq (s := s) (by rw [was]; rfl) inputs
    refine h.moves (moves_start present was inputs) ?_ ?_ ?_ ?_
    · rw [heq]
      exact List.nodup_append.2 ⟨h.nodup, by simp, by rintro a ha b hb rfl; simp_all⟩
    · intro j
      rw [heq]
      split
      · rename_i hj
        simp [hj, movedRecord]
      · rename_i hj
        simp [hj]
    · refine Or.inr ?_
      simp only [heq, List.length_append, List.length_cons, List.length_nil]
      omega
    · intro j gid hg
      rw [heq] at hg
      split
      · rename_i hj
        rw [hj, hnone] at hg
        cases hg
      · exact hg
  | @succeed i report rest o known told good was wrote all =>
    have heq := complete_of_success known was good wrote all
    refine h.moves (moves_success (hf.present known) known was good wrote all) ?_ ?_ ?_ ?_
    · rw [heq]
      exact h.nodup.filter _
    · intro j
      rw [heq]
      exact mem_filter_iff s.inFlight (by simp [successRecord, movedRecord]) j
    · rw [heq]
      exact room_of_sublist h.room List.filter_sublist
    · intro j gid hg
      rw [heq, getPair?_dropPair] at hg
      split at hg
      · cases hg
      · rename_i hj
        rwa [if_neg hj]

theorem Leads.tidy (h₀ : Poised s₀) (h : Leads s₀ s) : Tidy s :=
  h.keeps h₀.framed h₀.keyed h₀.tidy (fun _ _ _ hu hw => hu.wane hw)
    fun _ _ _ hf hu hr => hu.rise hf hr

/-! ## What is written down and reported -/

/-- The record of an instance that an effect reports. -/
def reportOf (id : String) : Effect → Option StageRecord
  | .moved j r => if j = id then some r else none
  | _ => none

/-- The record of an instance that an effect writes to the journal. -/
def writeOf (id : String) : Effect → Option StageRecord
  | .journal (.state _ j r) => if j = id then some r else none
  | _ => none

/-- The instance whose body an effect starts. -/
def startOf : Effect → Option String
  | .dispatched id _ => some id
  | _ => none

/-- The records of an instance that were reported, in order. -/
def reports (s : Scheduler) (id : String) : List StageRecord := s.effects.filterMap (reportOf id)

/-- The records of an instance that were written to the journal, in order. -/
def journaled (s : Scheduler) (id : String) : List StageRecord := s.effects.filterMap (writeOf id)

/-- The instances whose bodies were started, in order. -/
def started (s : Scheduler) : List String := s.effects.filterMap startOf

/-- The states that an instance went through, as they were reported, after the first one. -/
def trail (s₀ s : Scheduler) (id : String) : List State :=
  s₀.state id :: (s.reports id).map (·.state)

theorem quiet_of_isQuiet {e : Effect} (h : e.isQuiet = true) :
    startOf e = none ∧ ∀ id, reportOf id e = none ∧ writeOf id e = none := by
  cases e with
  | journal w =>
    cases w with
    | state => cases h
    | gate | release | finish => exact ⟨rfl, fun _ => ⟨rfl, rfl⟩⟩
  | moved | dispatched => cases h
  | shutdown | notice => exact ⟨rfl, fun _ => ⟨rfl, rfl⟩⟩

/-- What is written down tells of every instance how it came forward, and the journal and the
listeners are told the same. -/
structure Told (s₀ s : Scheduler) : Prop where
  rising : ∀ id, (trail s₀ s id).Pairwise fun a b => a.rank < b.rank
  last : ∀ id, (trail s₀ s id).getLast? = some (s.state id)
  below : ∀ id, ∀ a ∈ trail s₀ s id, a.rank ≤ (s.state id).rank
  journal : ∀ id, s.journaled id = s.reports id
  nodup : s.started.Nodup
  behind : ∀ id ∈ s.started, State.running.rank ≤ (s.state id).rank
  ran : ∀ id, id ∈ s.started ↔ ∃ r ∈ s.reports id, r.state = .running
  dispatched : s.dispatched = s.started.length

theorem Poised.told (h : Poised s) : Told s s := by
  have hreports : ∀ id, s.reports id = [] := fun id => by rw [reports, h.effects]; rfl
  have hjournal : ∀ id, s.journaled id = [] := fun id => by rw [journaled, h.effects]; rfl
  have hstarted : s.started = [] := by rw [started, h.effects]; rfl
  exact {
    rising := by simp [trail, hreports]
    last := by simp [trail, hreports]
    below := by simp [trail, hreports]
    journal := by simp [hreports, hjournal]
    nodup := by simp [hstarted]
    behind := by simp [hstarted]
    ran := by simp [hstarted, hreports]
    dispatched := by simp [hstarted, h.dispatched] }

theorem filterMap_quiet {α : Type} {f : Effect → Option α} {l notes : List Effect}
    (h : ∀ e ∈ notes, f e = none) : (l ++ notes).filterMap f = l.filterMap f := by
  rw [List.filterMap_append, List.filterMap_eq_nil_iff.2 h, List.append_nil]

/-- What a move adds to what was told of an instance. -/
theorem reports_moves {r : StageRecord} {after : List Effect} (hm : Moves s t id r after)
    (ha : ∀ j, ∀ e ∈ after, reportOf j e = none ∧ writeOf j e = none) (j : String) :
    t.reports j = (if j = id then s.reports j ++ [r] else s.reports j) ∧
      t.journaled j = if j = id then s.journaled j ++ [r] else s.journaled j := by
  have hreport := List.filterMap_eq_nil_iff.2 fun e he => (ha j e he).1
  have hwrite := List.filterMap_eq_nil_iff.2 fun e he => (ha j e he).2
  rw [reports, journaled, hm.effects, List.filterMap_append, List.filterMap_append]
  by_cases hj : j = id
  · subst hj
    simp [List.filterMap_cons, reportOf, writeOf, reports, journaled, hreport, hwrite]
  · simp [List.filterMap_cons, reportOf, writeOf, hj, Ne.symm hj, reports, journaled, hreport,
      hwrite]

/-- An instance that moves further adds its new state to what was told. -/
theorem Told.moves {r : StageRecord} {after : List Effect} (h : Told s₀ s)
    (hm : Moves s t id r after) (ha : ∀ j, ∀ e ∈ after, reportOf j e = none ∧ writeOf j e = none)
    (hlt : (s.state id).rank < r.state.rank) (hn : t.started.Nodup)
    (hb : ∀ j ∈ t.started, State.running.rank ≤ (t.state j).rank)
    (hran : ∀ j, j ∈ t.started ↔ j ∈ s.started ∨ j = id ∧ r.state = .running)
    (hd : t.dispatched = t.started.length) : Told s₀ t := by
  have hreports := fun j => (reports_moves hm ha j).1
  have htrail : ∀ j, trail s₀ t j =
      if j = id then trail s₀ s j ++ [r.state] else trail s₀ s j := by
    intro j
    rw [trail, hreports]
    split <;> simp [trail]
  refine ⟨?_, ?_, ?_, ?_, hn, hb, ?_, hd⟩
  · intro j
    rw [htrail]
    split
    · rename_i hj
      subst hj
      refine List.pairwise_append.2 ⟨h.rising j, by simp, fun a ha b hb => ?_⟩
      rw [List.mem_singleton.1 hb]
      exact Nat.lt_of_le_of_lt (h.below j a ha) hlt
    · exact h.rising j
  · intro j
    rw [htrail, hm.state]
    split
    · simp
    · exact h.last j
  · intro j a ha
    rw [htrail] at ha
    rw [hm.state]
    split at ha
    · rename_i hj
      subst hj
      rw [if_pos rfl]
      rcases List.mem_append.1 ha with ha | ha
      · exact Nat.le_of_lt (Nat.lt_of_le_of_lt (h.below j a ha) hlt)
      · exact Nat.le_of_eq (congrArg State.rank (List.mem_singleton.1 ha))
    · rename_i hj
      rw [if_neg hj]
      exact h.below j a ha
  · intro j
    rw [hreports, (reports_moves hm ha j).2, h.journal]
  · intro j
    rw [hran, h.ran, hreports]
    split
    · rename_i hj
      subst hj
      simp [or_and_right, exists_or]
    · rename_i hj
      simp [hj]

theorem Told.logs (h : Told s₀ s) (hl : Logs s t) : Told s₀ t := by
  have hforward := fun j => (hl.forward j).1
  cases hl with
  | still _ stages effects dispatched =>
    obtain ⟨notes, he, hq⟩ := effects
    have hreports : ∀ j, t.reports j = s.reports j := fun j => by
      rw [reports, he, filterMap_quiet fun e hm => ((quiet_of_isQuiet (hq e hm)).2 j).1, reports]
    have hjournal : ∀ j, t.journaled j = s.journaled j := fun j => by
      rw [journaled, he, filterMap_quiet fun e hm => ((quiet_of_isQuiet (hq e hm)).2 j).2,
        journaled]
    have hstarted : t.started = s.started := by
      rw [started, he, filterMap_quiet fun e hm => (quiet_of_isQuiet (hq e hm)).1, started]
    have htrail : trail s₀ t = trail s₀ s := by
      funext j
      rw [trail, hreports, trail]
    exact {
      rising := htrail ▸ h.rising
      last := by intro j; rw [htrail, state_congr stages]; exact h.last j
      below := by intro j; rw [htrail, state_congr stages]; exact h.below j
      journal := by intro j; rw [hjournal, hreports, h.journal]
      nodup := hstarted ▸ h.nodup
      behind := by intro j hj; rw [state_congr stages]; exact h.behind j (hstarted ▸ hj)
      ran := by intro j; rw [hstarted, hreports]; exact h.ran j
      dispatched := by rw [dispatched, hstarted, h.dispatched] }
  | @moved id r moves further waits dispatched =>
    have hstarted : t.started = s.started := by
      rw [started, moves.effects, List.filterMap_append]
      simp [List.filterMap_cons, startOf, started]
    refine h.moves moves (by simp) further (hstarted ▸ h.nodup) ?_ ?_ ?_
    · intro j hj
      exact Nat.le_trans (h.behind j (hstarted ▸ hj)) (hforward j)
    · intro j
      rw [hstarted]
      simp [waits]
    · rw [dispatched, hstarted, h.dispatched]
  | @started id r inputs moves ready runs dispatched =>
    have hstarted : t.started = s.started ++ [id] := by
      rw [started, moves.effects, List.filterMap_append]
      simp [List.filterMap_cons, startOf, started]
    have hnew : id ∉ s.started := by
      intro hm
      have hrank := h.behind id hm
      rw [ready] at hrank
      exact absurd hrank (by decide)
    refine h.moves moves ?_ (by rw [ready, runs]; decide) ?_ ?_ ?_ ?_
    · intro j e he
      rw [List.mem_singleton.1 he]
      exact ⟨rfl, rfl⟩
    · rw [hstarted]
      exact List.nodup_append.2 ⟨h.nodup, by simp, by rintro a ha b hb rfl; simp_all⟩
    · intro j hj
      rw [hstarted] at hj
      rcases List.mem_append.1 hj with hj | hj
      · exact Nat.le_trans (h.behind j hj) (hforward j)
      · refine Nat.le_of_eq ?_
        rw [List.mem_singleton.1 hj, moves.state, if_pos rfl, runs]
    · intro j
      rw [hstarted]
      simp [runs]
    · rw [dispatched, hstarted, h.dispatched, List.length_append, List.length_singleton]

theorem Leads.told (h₀ : Poised s₀) (h : Leads s₀ s) : Told s₀ s :=
  h.keeps h₀.framed h₀.keyed h₀.told (fun _ _ _ hu hw => hu.logs hw.logs)
    fun _ _ _ hf hu hr => hu.logs (hr.logs hf)

/-! ## Ends and starts -/

/-- An instance that was not restored and has ended is told to have ended once, as it has. -/
theorem Told.one_end (h : Told s₀ s) (hp : s₀.state id = .pending)
    (he : (s.state id).isTerminal = true) :
    ((s.reports id).map (·.state)).filter State.isTerminal = [s.state id] := by
  have hlast := h.last id
  rcases List.eq_nil_or_concat ((s.reports id).map (·.state)) with hnil | ⟨front, a, hfront⟩
  · rw [trail, hnil, hp] at hlast
    rw [← Option.some.inj hlast] at he
    cases he
  · have hrising := h.rising id
    rw [trail, hfront, List.concat_eq_append, ← List.cons_append] at hlast hrising
    rw [List.getLast?_concat] at hlast
    have ha := Option.some.inj hlast
    -- the trail rises up to its last entry, so no entry before that is an end
    have hbefore : ∀ b ∈ front, ¬ b.isTerminal = true := by
      intro b hb hended
      have hlt := (List.pairwise_append.1 hrising).2.2 b (List.mem_cons_of_mem _ hb) a (by simp)
      rw [State.rank_of_isTerminal hended, ha, State.rank_of_isTerminal he] at hlt
      exact Nat.lt_irrefl _ hlt
    rw [hfront, List.concat_eq_append, List.filter_append, List.filter_eq_nil_iff.2 hbefore, ha]
    simp [he]

/-- An instance that is running had its body started. -/
theorem Told.started_of_running (h : Told s₀ s) (hp : s₀.state id ≠ .running)
    (hr : s.state id = .running) : id ∈ s.started := by
  have hmem := List.mem_of_getLast? (h.last id)
  rw [hr, trail] at hmem
  rcases List.mem_cons.1 hmem with he | hm
  · exact absurd he.symm hp
  · obtain ⟨r, hm, hr⟩ := List.mem_map.1 hm
    exact (h.ran id).2 ⟨r, hm, hr⟩

theorem Wane.started (h : Wane s t) : t.started = s.started := by
  rcases h with ha | @⟨id, r, hl⟩
  · obtain ⟨notes, he, hq⟩ := ha.effects
    rw [Scheduler.started, he, filterMap_quiet fun e hm => (quiet_of_isQuiet (hq e hm)).1,
      Scheduler.started]
  · rw [Scheduler.started, hl.effects, List.filterMap_append]
    simp [List.filterMap_cons, startOf, Scheduler.started]

theorem Wanes.started (h : Wanes s t) : t.started = s.started := by
  induction h with
  | refl => rfl
  | tail _ hw ih => exact hw.started.trans ih

/-- A body that is started by a step is that of an instance which was ready and is running then. -/
theorem Step.started (hf : Framed s) (hk : s.gates.Keyed) (h : Step s t) :
    t.started = s.started ∨ ∃ id, t.started = s.started ++ [id] ∧ s.state id = .ready ∧
      t.state id = .running := by
  rcases h.changes hf hk with hw | @⟨u, ha, hr⟩
  · exact Or.inl hw.started
  · have hu : u.started = s.started := (Wane.aside ha.toAside).started
    rcases hr.logs (hf.aside ha.toAside) with ⟨_, _, ⟨notes, he, hq⟩⟩ | @⟨id, r, hm⟩ |
      @⟨id, r, inputs, hm, hready, hruns⟩
    · refine Or.inl ?_
      rw [Scheduler.started, he, filterMap_quiet fun e hm => (quiet_of_isQuiet (hq e hm)).1, ← hu,
        Scheduler.started]
    · refine Or.inl ?_
      rw [Scheduler.started, hm.effects, List.filterMap_append, ← hu]
      simp [List.filterMap_cons, startOf, Scheduler.started]
    · refine Or.inr ⟨id, ?_, (ha.state id).symm.trans hready, by rw [hm.state, if_pos rfl, hruns]⟩
      rw [Scheduler.started, hm.effects, List.filterMap_append, ← hu]
      simp [List.filterMap_cons, startOf, Scheduler.started]

theorem Leads.started_subset (hf : Framed s) (hk : s.gates.Keyed) (h : Leads s t) :
    ∀ id ∈ s.started, id ∈ t.started := by
  induction h with
  | refl => exact fun _ hm => hm
  | tail hlead hstep ih =>
    obtain ⟨hfu, hku⟩ := Leads.framed hf hk hlead
    intro id hm
    rcases hstep.started hfu hku with he | ⟨j, he, _⟩
    · rw [he]
      exact ih id hm
    · rw [he]
      exact List.mem_append_left _ (ih id hm)

/-- The bodies that were started are those of the instances that were ever running. -/
theorem Leads.mem_started_iff (h₀ : Poised s₀) (h : Leads s₀ s) :
    id ∈ s.started ↔ ∃ u, Leads s₀ u ∧ Leads u s ∧ u.state id = .running := by
  constructor
  · intro hm
    induction h with
    | refl =>
      rw [Scheduler.started, h₀.effects] at hm
      cases hm
    | @tail u v hlead hstep ih =>
      have hback : id ∈ u.started → ∃ w, Leads s₀ w ∧ Leads w v ∧ w.state id = .running := by
        intro hu
        obtain ⟨w, hw, hwu, hr⟩ := ih hu
        exact ⟨w, hw, hwu.snoc hstep, hr⟩
      obtain ⟨hfu, hku⟩ := Leads.framed h₀.framed h₀.keyed hlead
      rcases hstep.started hfu hku with he | ⟨j, he, _, hr⟩
      · exact hback (he ▸ hm)
      · rw [he] at hm
        rcases List.mem_append.1 hm with hm | hm
        · exact hback hm
        · rw [List.mem_singleton.1 hm]
          exact ⟨v, Leads.snoc hlead hstep, Leads.refl v, hr⟩
  · rintro ⟨u, hu, hus, hr⟩
    obtain ⟨hfu, hku⟩ := hu.framed h₀.framed h₀.keyed
    refine hus.started_subset hfu hku id ((hu.told h₀).started_of_running ?_ hr)
    rcases h₀.state id with hs | hs <;> rw [hs] <;> simp

/-- A step moves no instance back, and none that has ended. -/
theorem Step.forward (hf : Framed s) (hk : s.gates.Keyed) (h : Step s t) (id : String) :
    (s.state id).rank ≤ (t.state id).rank ∧
      ((s.state id).isTerminal = true → t.state id = s.state id) := by
  have hone : ∀ u v, (s.state id).rank ≤ (u.state id).rank ∧
      ((s.state id).isTerminal = true → u.state id = s.state id) → Logs u v →
      (s.state id).rank ≤ (v.state id).rank ∧
        ((s.state id).isTerminal = true → v.state id = s.state id) := by
    intro u v hu hl
    obtain ⟨hrank, hended⟩ := hl.forward id
    refine ⟨Nat.le_trans hu.1 hrank, fun he => ?_⟩
    rw [hended (by rwa [hu.2 he]), hu.2 he]
  exact h.keeps hf hk ⟨Nat.le_refl _, fun _ => rfl⟩ (fun u v _ hu hw => hone u v hu hw.logs)
    fun _ u v hfu hu hr => hone u v hu (hr.logs hfu)

theorem Leads.steady (hf : Framed s) (hk : s.gates.Keyed) (h : Leads s t) : Steady s t :=
  h.keeps hf hk (Steady.refl s) (fun _ _ _ hu hw => hu.trans hw.steady)
    fun _ _ _ hfu hu hr => hu.trans (hr.logs hfu).steady

/-! ## The laws -/

/-- In every run an instance only comes forward, and one that has ended stays as it is. It is told
to have ended once, its body is started at most once, and the scheduler waits for just the bodies
of the running instances, of which there are never too many. -/
theorem an_instance_only_comes_forward_and_ends_once (h₀ : Poised s₀)
    (hmax : 1 ≤ s₀.maxParallel) (h : Leads s₀ s) :
    (∀ t id, Step s t → (s.state id).rank ≤ (t.state id).rank ∧
      ((s.state id).isTerminal = true → t.state id = s.state id)) ∧
    (∀ id, (trail s₀ s id).Pairwise (fun a b => a.rank < b.rank) ∧
      (trail s₀ s id).getLast? = some (s.state id)) ∧
    (∀ id was next, s.crash ≠ some (.alreadyEnded id was next)) ∧
    (∀ id, s.journaled id = s.reports id) ∧
    (∀ id, s₀.state id = .pending → (s.state id).isTerminal = true →
      ((s.reports id).map (·.state)).filter State.isTerminal = [s.state id]) ∧
    s.started.Nodup ∧ s.dispatched = s.started.length ∧
    (∀ id, id ∈ s.started ↔ ∃ u, Leads s₀ u ∧ Leads u s ∧ u.state id = .running) ∧
    s.inFlight.Nodup ∧ (∀ id, id ∈ s.inFlight ↔ s.state id = .running) ∧
    (s.inFlight.length : Int) ≤ s.maxParallel := by
  obtain ⟨hf, hk⟩ := h.framed h₀.framed h₀.keyed
  have hsteady := h.steady h₀.framed h₀.keyed
  have htold := h.told h₀
  have htidy := h.tidy h₀
  refine ⟨fun t id hstep => hstep.forward hf hk id, fun id => ⟨htold.rising id, htold.last id⟩, ?_,
    htold.journal, fun id => htold.one_end, htold.nodup, htold.dispatched,
    fun id => h.mem_started_iff h₀, htidy.nodup, htidy.running, ?_⟩
  · intro id was next hc
    have hfirst := hsteady.blunder hc
    rw [h₀.crash] at hfirst
    cases hfirst
  · rcases htidy.room with hnil | hroom
    · rw [hnil, hsteady.maxParallel]
      simp only [List.length_nil]
      omega
    · exact hroom

theorem the_build_of_the_image_ends_once :
    (1 : Int) ≤ shipStart.maxParallel ∧
      ((shipReleasing.reports "build").map (·.state)).filter State.isTerminal = [.succeeded] ∧
      shipReleasing.started.Nodup ∧ ∀ id, id ∈ shipReleasing.inFlight ↔
        shipReleasing.state id = .running := by
  have hmax : (1 : Int) ≤ shipStart.maxParallel := by decide +kernel
  have hstart : shipStart.state "build" = .pending := by decide +kernel
  have hend : shipReleasing.state "build" = .succeeded := by decide +kernel
  obtain ⟨_, _, _, _, hreports, hstarted, _, _, _, hrunning, _⟩ :=
    an_instance_only_comes_forward_and_ends_once fresh_shipStart.toPoised hmax leads_shipReleasing
  refine ⟨hmax, ?_, hstarted, hrunning⟩
  rw [hreports "build" hstart (by rw [hend]; rfl), hend]

end GatedPipeline.Scheduler
