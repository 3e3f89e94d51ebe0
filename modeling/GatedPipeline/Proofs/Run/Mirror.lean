-- What a run has written to its journal mirrors it: the instances that have
-- succeeded are those that are recorded so, with the outputs that readers see.
-- Whatever part of the journal was carried out, what is recorded hangs together.
import GatedPipeline.Proofs.Run.Revive
namespace GatedPipeline

open RunStore (rowsAfter releaseAfter)

variable {g : StageGraph} {rows : List (String × StageRecord)} {release : Option ReleaseOutcome}
  {runId : String}

/-! ## Recording one thing more -/

theorem success?_putPair (id : String) (r : StageRecord) (rows : List (String × StageRecord))
    (j : String) :
    success? (putPair id r rows) j =
      if j = id then (if r.state = .succeeded then some r else none) else success? rows j := by
  rw [success?, getPair?_putPair]
  split
  · rw [Option.filter_some]
    simp
  · rfl

/-- Writes about instances that have not succeeded, and do not succeed, leave the recorded successes
as they are. -/
theorem success?_of_unsuccessful {ws : List JournalWrite}
    (h : ∀ id r, .state runId id r ∈ ws → r.state ≠ .succeeded ∧ success? rows id = none) :
    success? (ws.foldl (rowsAfter runId) rows) = success? rows := by
  induction ws generalizing rows with
  | nil => rfl
  | cons w ws ih =>
    have hone : success? (rowsAfter runId rows w) = success? rows := by
      cases w with
      | state owner id r =>
        simp only [rowsAfter]
        split
        · rename_i howner
          subst howner
          obtain ⟨hr, hnone⟩ := h id r List.mem_cons_self
          funext j
          rw [success?_putPair, if_neg hr]
          split
          · rename_i hj
            rw [hj, hnone]
          · rfl
        · rfl
      | gate | release | finish => rfl
    rw [List.foldl_cons, ih fun id r hm => ?_, hone]
    rw [hone]
    exact h id r (List.mem_cons_of_mem _ hm)

/-- What hangs together still does when the same successes are recorded, and a decision to release
that was recorded still is. -/
theorem Kept.congr {rows' : List (String × StageRecord)} {release' : Option ReleaseOutcome}
    (h : Kept g rows release) (hn : (rows'.map (·.1)).Nodup)
    (hs : success? rows' = success? rows) (hr : ∀ o, release = some o → release' = some o) :
    Kept g rows' release' where
  nodup := hn
  known := by rw [hs]; exact h.known
  closed := by rw [hs]; exact h.closed
  release := by
    rw [hs]
    intro i r hi hsuccess hrelease
    obtain ⟨o, ho, hdecision⟩ := h.release i r hi hsuccess hrelease
    exact ⟨o, hr o ho, hdecision⟩

/-- A success may be recorded once all that the instance depends on is, and the decision to release if
it releases. -/
theorem Kept.succeed (h : Kept g rows release) {i : Instance} {r : StageRecord}
    (hi : g.instance? i.id = some i) (hfits : Fits i r) (hr : r.state = .succeeded)
    (hd : ∀ d ∈ g.dependencies i.id, (success? rows d).isSome = true)
    (ho : i.template.release = true → ∃ o, release = some o ∧ o.decision = .release) :
    Kept g (putPair i.id r rows) release := by
  have hsuccess : ∀ j, success? (putPair i.id r rows) j =
      if j = i.id then some r else success? rows j := fun j => by
    rw [success?_putPair, if_pos hr]
  refine ⟨nodup_keys_putPair h.nodup, fun id r' hs => ?_, fun id r' hs d hm => ?_,
    fun j r' hj hs hrelease => ?_⟩
  · rw [hsuccess] at hs
    split at hs
    · rename_i hid
      cases hs
      exact ⟨i, hid ▸ hi, hfits⟩
    · exact h.known id r' hs
  · rw [hsuccess]
    split
    · rfl
    · rw [hsuccess] at hs
      split at hs
      · rename_i hid
        exact hd d (hid ▸ hm)
      · exact h.closed id r' hs d hm
  · rw [hsuccess] at hs
    split at hs
    · rename_i hid
      obtain rfl := Scheduler.instance_unique hj hi hid
      exact ho hrelease
    · exact h.release j r' hj hs hrelease

namespace Scheduler

variable {s₀ s t : Scheduler} {id : String} {i : Instance} {ws : List JournalWrite}

/-! ## The journal -/

/-- What an effect writes to the journal. -/
def journalOf : Effect → Option JournalWrite
  | .journal w => some w
  | _ => none

/-- What a run has written to its journal, in order. -/
def writes (s : Scheduler) : List JournalWrite := s.effects.filterMap journalOf

theorem mem_writes {w : JournalWrite} : w ∈ s.writes ↔ .journal w ∈ s.effects := by
  rw [writes, List.mem_filterMap]
  constructor
  · rintro ⟨e, hm, he⟩
    cases e with
    | journal w' => cases he; exact hm
    | moved | dispatched | shutdown | notice => cases he
  · exact fun hm => ⟨_, hm, rfl⟩

/-- A part of two journals in a row is one of the first, or has all of it. -/
theorem prefix_append_cases {ws as bs : List JournalWrite} (h : ws <+: as ++ bs) :
    ws <+: as ∨ ∃ cs, cs <+: bs ∧ ws = as ++ cs := by
  rcases List.prefix_or_prefix_of_prefix h (List.prefix_append as bs) with hws | ⟨cs, rfl⟩
  · exact Or.inl hws
  · exact Or.inr ⟨cs, (List.prefix_append_right_inj as).1 h, rfl⟩

/-! ## The decision -/

/-- What any part of the journal records as the decision is the decision. -/
theorem decision_of_recorded (h₀ : s₀.effects = []) (hd : s₀.decision? = release)
    (hs : Steady s₀ s) (hws : ws <+: s.writes) {o : ReleaseOutcome}
    (h : ws.foldl (releaseAfter s.run.id) release = some o) : s.decision? = some o := by
  rcases RunStore.written_of_release h with hm | hold
  · rcases hs.noted (mem_writes.1 (hws.subset hm)) with hm | ⟨_, ho⟩
    · rw [h₀] at hm
      cases hm
    · exact ho
  · exact hs.decision (hd.trans hold)

/-- A decision that a part of the journal records is recorded in every longer part. -/
theorem recorded_of_longer (h₀ : s₀.effects = []) (hd : s₀.decision? = release)
    (hs : Steady s₀ s) {ws' : List JournalWrite} (hws : ws <+: ws') (hws' : ws' <+: s.writes)
    {o : ReleaseOutcome} (h : ws.foldl (releaseAfter s.run.id) release = some o) :
    ws'.foldl (releaseAfter s.run.id) release = some o := by
  have ho := decision_of_recorded h₀ hd hs (hws.trans hws') h
  refine RunStore.release_of_written (fun o' hm => ?_) ?_
  · rcases hs.noted (mem_writes.1 (hws'.subset hm)) with hm | ⟨_, ho'⟩
    · rw [h₀] at hm
      cases hm
    · exact Option.some.inj (ho'.symm.trans ho)
  · exact (RunStore.written_of_release h).symm.imp_right fun hm => hws.subset hm

/-- The decision is recorded in the whole journal. -/
theorem recorded_of_decision (h₀ : s₀.effects = []) (hd : s₀.decision? = release)
    (hs : Steady s₀ s) {o : ReleaseOutcome} (ho : s.decision? = some o) :
    s.writes.foldl (releaseAfter s.run.id) release = some o := by
  refine RunStore.release_of_written (fun o' hm => ?_) ?_
  · rcases hs.noted (mem_writes.1 hm) with hm | ⟨_, ho'⟩
    · rw [h₀] at hm
      cases hm
    · exact Option.some.inj (ho'.symm.trans ho)
  · rcases hs.made ho with hold | ⟨_, hm⟩
    · exact Or.inl (hd.symm.trans hold)
    · exact Or.inr (mem_writes.2 (hs.runId ▸ hm))

/-! ## The mirror -/

/-- The recorded instances of the run after some writes. -/
def recorded (s : Scheduler) (rows : List (String × StageRecord)) (ws : List JournalWrite) :
    List (String × StageRecord) :=
  ws.foldl (rowsAfter s.run.id) rows

theorem Steady.recorded (h : Steady s t) : t.recorded rows = s.recorded rows := by
  funext ws
  rw [Scheduler.recorded, h.runId, Scheduler.recorded]

/-- A move writes the new record of its instance. -/
theorem Moves.writes {r : StageRecord} {after : List Effect} (h : Moves s t id r after)
    (ha : after.filterMap journalOf = []) :
    t.writes = s.writes ++ [.state s.run.id id r] := by
  rw [Scheduler.writes, h.effects, List.filterMap_append, ← Scheduler.writes]
  simp [List.filterMap_cons, journalOf, ha]

/-- What is noted in silence writes about no instance. -/
theorem writes_of_quiet {notes : List Effect} (he : t.effects = s.effects ++ notes)
    (hq : ∀ e ∈ notes, e.isQuiet = true) :
    ∃ ws, t.writes = s.writes ++ ws ∧ ∀ owner id r, .state owner id r ∉ ws := by
  refine ⟨notes.filterMap journalOf, ?_, fun owner id r hm => ?_⟩
  · rw [writes, he, List.filterMap_append, writes]
  · obtain ⟨e, hm, he⟩ := List.mem_filterMap.1 hm
    cases e with
    | journal w =>
      cases he
      have := hq _ hm
      cases this
    | moved | dispatched | shutdown | notice => cases he

theorem recorded_state (s : Scheduler) (rows : List (String × StageRecord)) (id : String)
    (r : StageRecord) : s.recorded rows (s.writes ++ [.state s.run.id id r]) =
      putPair id r (s.recorded rows s.writes) := by
  rw [recorded, List.foldl_append]
  exact if_pos rfl

/-- The journal, carried out on what was recorded before, has just the successes of the run; a part of
it has no others, and hangs together. -/
structure Mirrors (rows : List (String × StageRecord)) (release : Option ReleaseOutcome)
    (s : Scheduler) : Prop where
  kept : ∀ ws, ws <+: s.writes →
    Kept s.graph (s.recorded rows ws) (ws.foldl (releaseAfter s.run.id) release)
  grows : ∀ ws, ws <+: s.writes → ∀ id r, success? (s.recorded rows ws) id = some r →
    success? (s.recorded rows s.writes) id = some r
  state : ∀ id, s.state id = .succeeded ↔ (success? (s.recorded rows s.writes) id).isSome = true
  visible : s.fatal = false → ∀ id k, OwnKey id k → s.run.outputs.peek? id k =
    (success? (s.recorded rows s.writes) id).bind fun r => getPair? k r.outputs

theorem Revives.mirrors (h : Revives g rows release s) (hk : Kept g rows release) :
    Mirrors rows release s := by
  have hnone : s.writes = [] := by rw [writes, h.effects]; rfl
  refine ⟨fun ws hws => ?_, fun ws hws id r hr => ?_, fun id => ?_, fun _ id k hkey => ?_⟩
  · rw [hnone] at hws
    rw [List.prefix_nil.1 hws, h.planned]
    exact hk
  · rw [hnone] at hws ⊢
    rwa [List.prefix_nil.1 hws] at hr
  · rw [hnone, h.state]
    rcases hs : success? rows id with _ | r <;> simp [recorded, hs]
  · rw [hnone]
    exact h.visible id k hkey

/-- What is added to the mirror by writes after which the same successes are recorded. -/
theorem Mirrors.more (more : List JournalWrite) (h : Mirrors rows release s)
    (h₀ : s₀.effects = []) (hd : s₀.decision? = release) (hs : Steady s₀ t) (hst : Steady s t)
    (hw : t.writes = s.writes ++ more)
    (hmore : ∀ id r, .state s.run.id id r ∈ more → r.state ≠ .succeeded ∧ s.state id ≠ .succeeded)
    (hstate : ∀ id, t.state id = .succeeded ↔ s.state id = .succeeded)
    (ho : t.fatal = false → Shows t.decision? s.run.outputs t.run.outputs) :
    Mirrors rows release t := by
  have hrun : t.recorded rows = s.recorded rows := hst.recorded
  have hsame : ∀ cs, cs <+: more →
      success? (s.recorded rows (s.writes ++ cs)) = success? (s.recorded rows s.writes) := by
    intro cs hcs
    rw [recorded, List.foldl_append]
    refine success?_of_unsuccessful fun id r hm => ?_
    obtain ⟨hr, hs⟩ := hmore id r (hcs.subset hm)
    refine ⟨hr, Option.not_isSome_iff_eq_none.1 fun hsome => hs ((h.state id).2 hsome)⟩
  have hwhole : success? (t.recorded rows t.writes) = success? (s.recorded rows s.writes) := by
    rw [hrun, hw]
    exact hsame more List.prefix_rfl
  refine ⟨fun ws hws => ?_, fun ws hws id r hr => ?_, fun id => ?_, fun ht id k hkey => ?_⟩
  · rw [hrun, show t.graph = s.graph from hst.graph, hst.runId]
    rw [hw] at hws
    rcases prefix_append_cases hws with hws | ⟨cs, hcs, rfl⟩
    · exact h.kept ws hws
    · have hold := h.kept s.writes List.prefix_rfl
      refine hold.congr ?_ (hsame cs hcs) fun o ho => ?_
      · rw [recorded, List.foldl_append]
        exact RunStore.nodup_foldl_rowsAfter hold.nodup
      · rw [← hst.runId] at ho ⊢
        exact recorded_of_longer h₀ hd hs (List.prefix_append _ _) (hw ▸ hws) ho
  · rw [hwhole]
    rw [hrun] at hr
    rw [hw] at hws
    rcases prefix_append_cases hws with hws | ⟨cs, hcs, rfl⟩
    · exact h.grows ws hws id r hr
    · rwa [hsame cs hcs] at hr
  · rw [hstate, hwhole]
    exact h.state id
  · rw [hwhole, (ho ht).peek? hkey]
    exact h.visible (hst.unaborted ht) id k hkey

/-- A change by which no instance succeeds. -/
theorem Mirrors.logs (h : Mirrors rows release s) (h₀ : s₀.effects = [])
    (hd : s₀.decision? = release) (hs : Steady s₀ s) (hl : Logs s t)
    (hstill : ∀ id, t.state id = .succeeded → s.state id = .succeeded)
    (ho : t.fatal = false → Shows t.decision? s.run.outputs t.run.outputs) :
    Mirrors rows release t := by
  have hst := hl.steady
  have hstate : ∀ id, t.state id = .succeeded ↔ s.state id = .succeeded :=
    fun id => ⟨hstill id, hl.succeeded⟩
  have hmoves : ∀ {id r after}, Moves s t id r after → after.filterMap journalOf = [] →
      Mirrors rows release t := by
    intro id r after hm hafter
    refine h.more [.state s.run.id id r] h₀ hd (hs.trans hst) hst (hm.writes hafter) ?_ hstate ho
    intro j r' hm'
    cases List.mem_singleton.1 hm'
    have hopen : s.state id ≠ .succeeded := by
      intro hsucceeded
      have := hm.unended
      rw [hsucceeded] at this
      cases this
    refine ⟨fun hr => hopen (hstill id ?_), hopen⟩
    rw [hm.state, if_pos rfl, hr]
  cases hl with
  | still _ _ effects =>
    obtain ⟨notes, he, hq⟩ := effects
    obtain ⟨ws, hw, hnone⟩ := writes_of_quiet he hq
    exact h.more ws h₀ hd (hs.trans hst) hst hw (fun id r hm => absurd hm (hnone _ id r)) hstate ho
  | moved moves => exact hmoves moves rfl
  | started moves => exact hmoves moves rfl

theorem Mirrors.wane (h : Mirrors rows release s) (h₀ : s₀.effects = [])
    (hd : s₀.decision? = release) (hs : Steady s₀ s) (hw : Wane s t) : Mirrors rows release t := by
  refine h.logs h₀ hd hs hw.logs (fun id ht => ?_) ?_
  · rcases hw with ha | @⟨j, r, hl⟩
    · rwa [← ha.state]
    · rw [hl.state] at ht
      split at ht
      · have hlost := hl.lost
        rw [ht] at hlost
        cases hlost
      · exact ht
  · rcases hw with ha | hl
    · exact fun _ => ha.outputs
    · exact hl.outputs

/-! ## A success -/

/-- What a success records fits: just the declared outputs, as text. -/
theorem fits_of_success {report : BodyReport} {o o' : OutputStore} {r : StageRecord}
    (hempty : ∀ q, o.stagedOf q = []) (wrote : stageOutputs i o report.outputs = (o', none))
    (all : ∀ k ∈ i.template.outputs, (getPair? k (o'.stagedOf i.id)).isSome = true)
    (hr : r.outputs = o'.stagedOf i.id) : Fits i r where
  nodup := by
    have hnodup := @nodup_stagedOf_stageOutputs i o report.outputs
      (by rw [hempty]; exact List.nodup_nil)
    rw [wrote] at hnodup
    rwa [hr]
  declared := by
    intro k hk
    obtain ⟨hrun, w, _, hstaged⟩ := staged_of_success hempty wrote hk (all k hk)
    exact ⟨hrun, w.shown, by rw [hr, hstaged]⟩
  others := by
    intro k hk
    have hstaged := @getPair?_stagedOf_undeclared i o report.outputs k hk
    rw [wrote, hempty] at hstaged
    rw [hr]
    exact hstaged

/-- A success is recorded with what it publishes. -/
theorem Mirrors.succeed {R : String → BodyReport → Prop} {report : BodyReport} {o : OutputStore}
    (h : Mirrors rows release s) (h₀ : s₀.effects = []) (hd : s₀.decision? = release)
    (hs : Steady s₀ s) (hflows : Flows R s) (hrooted : Rooted s) (going : s.fatal = false)
    (hp : i.id ∈ s.run.stages.map (·.1)) (hi : s.graph.instance? i.id = some i)
    (was : s.state i.id = .running) (good : report.status = .succeeded)
    (wrote : stageOutputs i s.run.outputs report.outputs = (o, none))
    (all : ∀ k ∈ i.template.outputs, (getPair? k (o.stagedOf i.id)).isSome = true) :
    Mirrors rows release (s.complete i.id report) := by
  have he := complete_of_success hi was good wrote all
  have hm := moves_success hp hi was good wrote all
  have hfits : Fits i (s.successRecord i.id (o.stagedOf i.id)) :=
    fits_of_success (hflows.staged going) wrote all rfl
  have hr : (s.successRecord i.id (o.stagedOf i.id)).state = .succeeded := rfl
  have hout : (s.complete i.id report).run.outputs = o.commit i.id := by rw [he]
  generalize hrecord : s.successRecord i.id (o.stagedOf i.id) = r at hm hfits hr
  have hw := hm.writes rfl
  have hrun : (s.complete i.id report).recorded rows = s.recorded rows := hm.toSteady.recorded
  have hrows := s.recorded_state rows i.id r
  have hsuccess : ∀ j, success? (putPair i.id r (s.recorded rows s.writes)) j =
      if j = i.id then some r else success? (s.recorded rows s.writes) j := fun j => by
    rw [success?_putPair, if_pos hr]
  have hnone : success? (s.recorded rows s.writes) i.id = none := by
    refine Option.not_isSome_iff_eq_none.1 fun hsome => ?_
    have hsucceeded := (h.state i.id).2 hsome
    rw [was] at hsucceeded
    cases hsucceeded
  have hcleared : (s.state i.id).isCleared = true := by rw [was]; rfl
  refine ⟨fun ws hws => ?_, fun ws hws j r' hj => ?_, fun j => ?_, fun ht j k hkey => ?_⟩
  · rw [hrun, show (s.complete i.id report).graph = s.graph from hm.graph, hm.runId]
    rw [hw] at hws
    rcases List.prefix_concat_iff.1 hws with rfl | hws
    · rw [hrows, List.foldl_append]
      refine (h.kept s.writes List.prefix_rfl).succeed hi hfits hr (fun d hdep => ?_)
        fun hrelease => ?_
      · exact (h.state d).1 (hrooted i hi hcleared d hdep)
      · obtain ⟨v, hv⟩ := Option.isSome_iff_exists.1 (hflows.released going i hi hcleared hrelease)
        obtain ⟨outcome, hdecided, hdecision, _⟩ := hflows.tag going v hv
        exact ⟨outcome, recorded_of_decision h₀ hd hs hdecided, hdecision⟩
    · exact h.kept ws hws
  · rw [hrun, hw, hrows, hsuccess]
    rw [hrun] at hj
    rw [hw] at hws
    rcases List.prefix_concat_iff.1 hws with rfl | hws
    · rwa [hrows, hsuccess] at hj
    · have hold := h.grows ws hws j r' hj
      rw [if_neg, hold]
      rintro rfl
      rw [hnone] at hold
      cases hold
  · rw [hrun, hw, hrows, hsuccess, hm.state]
    split
    · exact ⟨fun _ => rfl, fun _ => hr⟩
    · exact h.state j
  · rw [hrun, hw, hrows, hsuccess, hout]
    split
    · rename_i hj
      subst hj
      have hhidden := h.visible going i.id k hkey
      rw [hnone] at hhidden
      rw [peek?_of_staged (hflows.staged going) wrote all hhidden, ← hrecord]
      rfl
    · rename_i hj
      rw [OutputStore.peek?, publishedOf_of_success hj wrote]
      exact h.visible going j k hkey

theorem Mirrors.rise {R : String → BodyReport → Prop} {e : Scheduler} (hf : Framed s)
    (h : Mirrors rows release s) (h₀ : s₀.effects = []) (hd : s₀.decision? = release)
    (hs : Steady s₀ s) (hflows : Flows R s) (hrooted : Rooted s)
    (going : ∀ id, s.state id = .running → s.fatal = false) (hr : Rise e s t) :
    Mirrors rows release t := by
  rcases hr.outputs_or_success with
    ⟨hsame, hstill⟩ | ⟨i, report, _, o, known, _, good, was, wrote, all, rfl⟩
  · refine h.logs h₀ hd hs (hr.logs hf) hstill fun _ => ?_
    rw [hsame]
    exact shows_refl _ _
  · exact h.succeed h₀ hd hs hflows hrooted (going _ was) (hf.present known) known was good wrote
      all

/-! ## Along a run -/

/-- A run that goes on from what is recorded writes down what comes of it. -/
theorem Leads.mirrors (h₀ : Revives g rows release s₀) (hk : Kept g rows release)
    (h : Leads s₀ s) : Mirrors rows release s := by
  induction h with
  | refl => exact h₀.mirrors hk
  | @tail u v hlead hstep ih =>
    obtain ⟨hf, hkeyed⟩ := Leads.framed h₀.framed h₀.keyed hlead
    have hsteady := Leads.steady h₀.framed h₀.keyed hlead
    rcases hstep.changes hf hkeyed with hw | @⟨w, ha, hr⟩
    · exact (hw.keeps (P := fun x => Steady s₀ x ∧ Mirrors rows release x) hf ⟨hsteady, ih⟩
        fun _ _ _ hx hw => ⟨hx.1.trans hw.steady,
          hx.2.wane h₀.effects h₀.decision hx.1 hw⟩).2
    · have hrooted := Leads.rooted h₀.toPoised (h₀.rooted hk) hlead
      have hflows := Leads.flows_of_rooted h₀.toPoised (h₀.rooted hk) (h₀.flows hk) hlead
      refine Mirrors.rise (hf.aside ha.toAside)
        (ih.wane h₀.effects h₀.decision hsteady (.aside ha.toAside)) h₀.effects h₀.decision
        (hsteady.trans ha.toSteady) (hflows.wane (.aside ha.toAside))
        (hrooted.wane (.aside ha.toAside)) (fun id was => ?_) hr
      -- a run that was aborted has ended, so nothing runs in it
      rw [show w.fatal = u.fatal from congrArg Prod.fst ha.flags]
      rw [ha.state] at was
      rcases hfatal : u.fatal with _ | _
      · rfl
      · obtain ⟨i, rfl, hi⟩ := hf.instance_of_unpending (by rw [was]; simp)
        have hended := Leads.allEnded h₀.toPoised hlead (Or.inl hfatal) i.id
          (hf.order_of_present (hf.present hi))
        rw [was] at hended
        cases hended

end Scheduler

end GatedPipeline
