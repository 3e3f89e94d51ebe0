-- The passes of a scheduler come to an end. A pass that changes something takes
-- some instance further and none back, and no instance has more than five steps
-- to take; so nothing has to count the passes.
import Mathlib.Algebra.Order.BigOperators.Group.List
import Mathlib.Algebra.Order.Group.Nat
import Mathlib.Algebra.GroupWithZero.Nat
import GatedPipeline.Proofs.Run.Stop
namespace GatedPipeline.Scheduler

variable {s₀ s t u e : Scheduler} {heads : List Scheduler} {id : String} {i : Instance}

/-! ## How far a run has come -/

/-- How far an instance has come. A ready one that waits for a gate is not as far as one that does
not. -/
def place (s : Scheduler) (id : String) : Nat :=
  match s.state id with
  | .pending => 0
  | .blocked => 1
  | .ready => if (getPair? id s.awaiting).isSome then 2 else 3
  | .running => 4
  | .succeeded | .failed | .skipped | .cancelled => 5

/-- How far all instances together have come. -/
def progress (s : Scheduler) : Nat := (s.graph.order.map s.place).sum

theorem place_le_five (s : Scheduler) (id : String) : s.place id ≤ 5 := by
  unfold place
  split <;> try omega
  split <;> omega

theorem progress_le (s : Scheduler) : s.progress ≤ 5 * s.graph.order.length := by
  have h := List.sum_le_card_nsmul (s.graph.order.map s.place) 5 (by
    intro n hn
    obtain ⟨id, _, rfl⟩ := List.mem_map.1 hn
    exact place_le_five s id)
  simpa [progress, Nat.mul_comm] using h

theorem place_congr (hs : t.state id = s.state id)
    (ha : getPair? id t.awaiting = getPair? id s.awaiting) : t.place id = s.place id := by
  rw [place, place, hs, ha]

theorem place_of_ready (h : s.state id = .ready) :
    s.place id = if (getPair? id s.awaiting).isSome then 2 else 3 := by
  rw [place, h]

theorem place_near_rank (s : Scheduler) (id : String) :
    (s.state id).rank ≤ s.place id ∧ s.place id ≤ (s.state id).rank + 1 ∧
      ((s.state id).rank ≤ 1 → s.place id = (s.state id).rank) ∧
      (3 ≤ (s.state id).rank → s.place id = (s.state id).rank + 1) := by
  unfold place
  cases s.state id with
  | ready => dsimp only [State.rank]; split <;> omega
  | _ => simp [State.rank]

/-- An instance in a further state has come further. -/
theorem place_lt_of_rank (h : (s.state id).rank < (t.state id).rank) : s.place id < t.place id := by
  obtain ⟨_, _, _, _⟩ := place_near_rank s id
  obtain ⟨_, _, _, _⟩ := place_near_rank t id
  omega

/-! ## A run never falls back -/

/-- No instance has fallen back. -/
def Climbs (s t : Scheduler) : Prop := ∀ id, s.place id ≤ t.place id

/-- No instance has fallen back, and some instance has come further. -/
structure Raises (s t : Scheduler) : Prop where
  climbs : Climbs s t
  further : ∃ id ∈ s.graph.order, s.place id < t.place id

theorem Climbs.refl (s : Scheduler) : Climbs s s := fun _ => Nat.le_refl _

theorem Climbs.trans (h : Climbs s t) (h' : Climbs t u) : Climbs s u :=
  fun id => Nat.le_trans (h id) (h' id)

theorem Raises.trans_climbs (h : Raises s t) (h' : Climbs t u) : Raises s u := by
  obtain ⟨id, hid, hlt⟩ := h.further
  exact ⟨h.climbs.trans h', id, hid, Nat.lt_of_lt_of_le hlt (h' id)⟩

theorem Raises.progress_lt (h : Raises s t) (hg : t.graph = s.graph) :
    s.progress < t.progress := by
  rw [progress, progress, hg]
  exact List.sum_lt_sum s.place t.place (fun id _ => h.climbs id) h.further

/-- A move to a further state, after which the others wait for the same gates. -/
theorem Moves.raises {r : StageRecord} {after : List Effect} (hf : Framed s)
    (h : Moves s t id r after) (hlt : (s.state id).rank < r.state.rank)
    (ha : ∀ j, j ≠ id → getPair? j t.awaiting = getPair? j s.awaiting) : Raises s t := by
  have hfurther : s.place id < t.place id := by
    refine place_lt_of_rank ?_
    rwa [h.state, if_pos rfl]
  refine ⟨fun j => ?_, id, hf.order_of_present h.present, hfurther⟩
  by_cases hj : j = id
  · exact hj ▸ Nat.le_of_lt hfurther
  · exact Nat.le_of_eq (place_congr (by rw [h.state, if_neg hj]) (ha j hj)).symm

theorem Aside.climbs (h : Aside s t) : Climbs s t :=
  fun j => Nat.le_of_eq (place_congr (h.state j) (by rw [h.awaiting])).symm

theorem Asks.trans_raises (h : Asks s t) (h' : Raises t u) : Raises s u := by
  have hclimbs := h.toAside.climbs
  obtain ⟨id, hid, hlt⟩ := h'.further
  rw [show t.graph = s.graph from h.graph] at hid
  exact ⟨hclimbs.trans h'.climbs, id, hid, Nat.lt_of_le_of_lt (hclimbs id) hlt⟩

theorem Loses.raises {r : StageRecord} (hf : Framed s) (h : Loses s t id r) : Raises s t := by
  refine h.toMoves.raises hf ?_ fun j hj => ?_
  · rw [State.rank_of_isLost h.lost]
    exact State.rank_lt_of_unended h.unended
  · rw [h.awaiting, getPair?_dropPair, if_neg hj]

theorem Wane.climbs (hf : Framed s) (h : Wane s t) : Climbs s t := by
  rcases h with ha | hl
  · exact ha.climbs
  · exact (hl.raises hf).climbs

theorem Wanes.climbs (hf : Framed s) (h : Wanes s t) : Climbs s t :=
  h.keeps hf (Climbs.refl s) fun _ _ hfu hu hw => hu.trans (hw.climbs hfu)

/-- An instance that has not ended moves on, and may wait for a gate then. -/
theorem raises_move {awaiting : List (String × String)} {st : State} (hf : Framed s)
    (hp : id ∈ s.run.stages.map (·.1)) (hlt : (s.state id).rank < st.rank)
    (hst : st.isTerminal = false)
    (ha : ∀ j, j ≠ id → getPair? j awaiting = getPair? j s.awaiting) :
    Raises s (move { s with awaiting } id st) := by
  have ho := State.unended_of_further hlt
  refine (moves_move s s.inFlight awaiting s.run.outputs st none hp ho).raises hf hlt fun j hj => ?_
  rw [@move_of_unended { s with awaiting } id st none ho hst]
  exact ha j hj

/-- An instance that waits for no gate any more has come further. -/
theorem raises_pass {gid : String} (hf : Framed s) (was : s.state id = .ready)
    (waits : getPair? id s.awaiting = some gid) :
    Raises s { s with awaiting := dropPair id s.awaiting } := by
  have hfurther : s.place id < place { s with awaiting := dropPair id s.awaiting } id := by
    rw [place_of_ready was, place_of_ready (s := { s with awaiting := dropPair id s.awaiting }) was]
    simp [getPair?_dropPair, waits]
  refine ⟨fun j => ?_, id, hf.order_of_present (mem_of_state_ne (by rw [was]; simp)), hfurther⟩
  by_cases hj : j = id
  · rw [hj]
    exact Nat.le_of_lt hfurther
  · refine Nat.le_of_eq (place_congr (s := s)
      (t := { s with awaiting := dropPair id s.awaiting }) rfl ?_).symm
    rw [getPair?_dropPair, if_neg hj]

theorem Rise.raises (hf : Framed s) (h : Rise e s t) : Raises s t := by
  cases h with
  | block present was => exact raises_move hf present (by rw [was]; decide) rfl fun _ _ => rfl
  | ready known was =>
    refine raises_move hf (hf.present known) ?_ rfl fun _ _ => rfl
    rcases was with was | was <;> rw [was] <;> decide
  | wait known was =>
    refine raises_move hf (hf.present known) ?_ rfl fun j hj => ?_
    · rcases was with was | was <;> rw [was] <;> decide
    · rw [getPair?_putPair, if_neg hj]
  | pass was waits => exact raises_pass hf was waits
  | start present _ _ able =>
    have was := (ready_of_startable able).1
    refine (moves_start present was _).raises hf (by rw [was]; exact Nat.lt_succ_self 2) ?_
    intro j _
    rw [start_eq (by rw [was]; rfl)]
  | succeed known _ good was wrote all =>
    refine (moves_success (hf.present known) known was good wrote all).raises hf
      (by rw [was]; exact Nat.lt_succ_self 3) fun j hj => ?_
    rw [complete_of_success known was good wrote all, getPair?_dropPair, if_neg hj]

theorem Leads.climbs (hf : Framed s) (hk : s.gates.Keyed) (h : Leads s t) : Climbs s t :=
  h.keeps hf hk (Climbs.refl s) (fun _ _ hfu hu hw => hu.trans (hw.climbs hfu))
    fun _ _ _ hfu hu hr => hu.trans (hr.raises hfu).climbs

/-- An abort ends an instance that had not ended. -/
theorem raises_abort (hf : Framed s) (hid : id ∈ s.graph.order)
    (ho : (s.state id).isTerminal = false) (error : String) : Raises s (s.abort error) := by
  have hwanes := wanes_abort hf error
  refine ⟨hwanes.climbs hf, id, hid, place_lt_of_rank ?_⟩
  have hg : (s.abort error).graph = s.graph := hwanes.steady.graph
  have hended : ((s.abort error).state id).isTerminal = true :=
    allEnded_abort hf error id (by rwa [hg])
  rw [State.rank_of_isTerminal hended]
  exact State.rank_lt_of_unended ho

/-! ## One pass -/

/-- A waiting instance ends without success, and may take others along. -/
theorem raises_lose {st : State} {text : String} (hf : Framed s)
    (hi : s.graph.instance? i.id = some i) (waits : (s.state i.id).isWaiting = true)
    (hl : st.isLost = true) (hw : Wanes (s.move i.id st text) t) : Raises s t := by
  have hlost := loses_move s (some text) (hf.present hi)
    (State.not_isTerminal_of_isWaiting waits) hl (Or.inl ⟨waits, rfl⟩) (spills_refl _ _) fun _ => rfl
  exact (hlost.raises hf).trans_climbs (hw.climbs (hf.wane (.lose hlost)))

/-- A look that changes something breaks the run off or brings it further. -/
theorem Looks.raises (hf : Framed s) (hi : s.graph.instance? i.id = some i)
    (ho : (s.state i.id).isTerminal = false) (h : Looks s i (true, t)) :
    t.crash.isSome = true ∨ Raises s t := by
  cases h with
  | rise asks rise => exact Or.inr (asks.trans_raises (rise.raises (hf.aside asks.toAside)))
  | skip asks waits reason =>
    have hfv := hf.aside asks.toAside
    exact Or.inr (asks.trans_raises
      (raises_lose hfv (asks.instance_eq hi) waits rfl (Wanes.refl _)))
  | @fail v asks waits text message =>
    have hfv := hf.aside asks.toAside
    have hiv := asks.instance_eq hi
    have hfailed := (wanes_move (some text) (hfv.present hiv) waits
      (show State.failed.isLost = true from rfl)).trans (wanes_addError _ message)
    have hafter := (wanes_addError _ message).trans (wanes_afterFailure (hfv.wanes hfailed) i)
    exact Or.inr (asks.trans_raises (raises_lose hfv hiv waits rfl hafter))
  | abort asks error =>
    have hfv := hf.aside asks.toAside
    have hid := hfv.order_of_present (hfv.present (asks.instance_eq hi))
    exact Or.inr (asks.trans_raises (raises_abort hfv hid (by rwa [asks.state]) error))
  | crash => exact Or.inl rfl

/-- Nothing can be done: there is nothing to do about any instance, and none can be started or there
is no room. -/
structure Settled (s : Scheduler) : Prop where
  idle : ∀ id ∈ s.graph.order, ∀ i, s.graph.instance? id = some i → Idle s i
  full : s.maxParallel ≤ s.inFlight.length ∨ ∀ id ∈ s.graph.order, s.startable id = false

theorem visitAll_of_changed (ids : List String) (s : Scheduler) :
    (visitAll ids true s).1 = true := by
  induction ids generalizing s with
  | nil => rfl
  | cons id ids ih =>
    unfold visitAll
    dsimp only
    split
    · rfl
    · exact ih _

theorem startAll_of_changed (ids : List String) (s : Scheduler) :
    (startAll ids true s).1 = true := by
  induction ids generalizing s with
  | nil => rfl
  | cons id ids ih =>
    unfold startAll
    split
    · rfl
    · split
      · split
        · exact ih _
        · rfl
        · rfl
      · exact ih s

/-- Only an instance that has not ended is looked at. -/
theorem unended_of_visit (h : (s.visit id).1 = true) : (s.state id).isTerminal = false := by
  unfold visit at h
  cases hs : s.state id with
  | pending | blocked | ready | running => rfl
  | succeeded | failed | skipped | cancelled =>
    rw [hs] at h
    split at h <;> cases h

/-- A look finds nothing to do about the instance, or breaks the run off or brings it further. -/
theorem visit_spec (hf : Framed s) (hk : s.gates.Keyed) (id : String) :
    s.visit id = (false, s) ∧ (∀ i, s.graph.instance? id = some i → Idle s i) ∨
      (s.visit id).1 = true ∧
        ((s.visit id).2.crash.isSome = true ∨ Raises s (s.visit id).2) := by
  rcases hi : s.graph.instance? id with _ | i
  · exact Or.inl ⟨by simp only [visit, hi], by simp⟩
  · have hlooks := looks_visit hf hk hi
    have hunended := @unended_of_visit s id
    generalize s.visit id = visited at hlooks hunended ⊢
    obtain ⟨c, v⟩ := visited
    cases c with
    | false =>
      cases hlooks with
      | idle idle =>
        refine Or.inl ⟨rfl, fun j hj => ?_⟩
        cases hj
        exact idle
    | true =>
      obtain rfl := hf.id_eq hi
      exact Or.inr ⟨rfl, hlooks.raises hf hi (hunended rfl)⟩

theorem halted_of_crash (h : s.crash.isSome = true) : s.halted = true := by simp [halted, h]

/-- Looking at instances one after the other finds nothing to do about any of them, or breaks the
run off or brings it further. -/
theorem visitAll_spec (hf : Framed s) (hk : s.gates.Keyed) (going : s.halted = false)
    (ids : List String) :
    visitAll ids false s = (false, s) ∧
        (∀ id ∈ ids, ∀ i, s.graph.instance? id = some i → Idle s i) ∨
      (visitAll ids false s).1 = true ∧ ((visitAll ids false s).2.crash.isSome = true ∨
        Raises s (visitAll ids false s).2) := by
  induction ids with
  | nil => exact Or.inl ⟨rfl, by simp⟩
  | cons id ids ih =>
    have hlead : Leads s (s.visit id).2 := (Step.visit going id).leads
    rcases visit_spec hf hk id with ⟨hv, hidle⟩ | ⟨hc, hraises⟩
    · rw [show visitAll (id :: ids) false s = visitAll ids false s by
        rw [visitAll, hv]; simp [going]]
      refine ih.imp_left ?_
      rintro ⟨he, hrest⟩
      refine ⟨he, fun j hj => ?_⟩
      rcases List.mem_cons.1 hj with rfl | hj
      · exact hidle
      · exact hrest j hj
    · obtain ⟨hfv, hkv⟩ := hlead.framed hf hk
      refine Or.inr ?_
      unfold visitAll
      generalize s.visit id = visited at hc hraises hfv hkv ⊢
      obtain ⟨c, v⟩ := visited
      obtain rfl : c = true := hc
      dsimp only at hraises hfv hkv ⊢
      split
      · exact ⟨rfl, hraises⟩
      · rename_i hgoing
        have hrest := (leads_visitAll ids true (by simpa using hgoing)).climbs hfv hkv
        have hone := hraises.resolve_left fun hcrash => hgoing (halted_of_crash hcrash)
        exact ⟨visitAll_of_changed ids v, Or.inr (hone.trans_climbs hrest)⟩

/-- Starting what can be started finds nothing to start, or no room, or breaks the run off or brings
it further. -/
theorem startAll_spec (hf : Framed s) (hk : s.gates.Keyed) (going : s.halted = false)
    (ids : List String) :
    startAll ids false s = (false, s) ∧
        (s.maxParallel ≤ s.inFlight.length ∨ ∀ id ∈ ids, s.startable id = false) ∨
      (startAll ids false s).1 = true ∧ ((startAll ids false s).2.crash.isSome = true ∨
        Raises s (startAll ids false s).2) := by
  induction ids with
  | nil => exact Or.inl ⟨rfl, Or.inr (by simp)⟩
  | cons id ids ih =>
    unfold startAll
    split
    · rename_i hfull
      simp only [going, Bool.or_false, decide_eq_true_eq] at hfull
      exact Or.inl ⟨rfl, Or.inl hfull⟩
    · rename_i hroom
      simp only [going, Bool.or_false, decide_eq_true_eq] at hroom
      split
      · rename_i able
        have was := (ready_of_startable able).1
        have hpresent : id ∈ s.run.stages.map (·.1) := mem_of_state_ne (by rw [was]; simp)
        refine Or.inr ?_
        split
        · rename_i inputs hi
          have hstart := Rise.start (e := s) hpresent going hroom able hi
          obtain ⟨hfv, hkv⟩ := (Step.start going hroom able hi).framed hf hk
          have hrest := (leads_startAll ids true (s.start id inputs)).climbs hfv hkv
          exact ⟨startAll_of_changed ids _, Or.inr ((hstart.raises hf).trans_climbs hrest)⟩
        · exact ⟨rfl, Or.inr (raises_abort hf (hf.order_of_present hpresent) (by rw [was]; rfl) _)⟩
        · exact ⟨rfl, Or.inl rfl⟩
      · rename_i hnot
        refine ih.imp_left ?_
        rintro ⟨he, hrest⟩
        refine ⟨he, hrest.imp_right fun hnone j hj => ?_⟩
        rcases List.mem_cons.1 hj with rfl | hj
        · simpa using hnot
        · exact hnone j hj

/-- A pass that changes nothing leaves the run settled, and one that changes something breaks the
run off or brings it further. -/
theorem pass_spec (hf : Framed s) (hk : s.gates.Keyed) (going : s.halted = false) :
    s.pass = (false, s) ∧ Settled s ∨
      s.pass.1 = true ∧ (s.pass.2.crash.isSome = true ∨ Raises s s.pass.2) := by
  unfold pass
  rcases visitAll_spec hf hk going s.graph.order with ⟨he, hidle⟩ | ⟨hc, hv⟩
  · rw [he]
    simp only [going]
    refine (startAll_spec hf hk going s.graph.order).imp_left ?_
    rintro ⟨he, hfull⟩
    exact ⟨he, hidle, hfull⟩
  · have hlead := leads_visitAll s.graph.order false going
    obtain ⟨hfv, hkv⟩ := hlead.framed hf hk
    generalize visitAll s.graph.order false s = visited at hc hv hfv hkv ⊢
    obtain ⟨c, v⟩ := visited
    obtain rfl : c = true := hc
    refine Or.inr ?_
    dsimp only at hv hfv hkv ⊢
    split
    · exact ⟨rfl, hv⟩
    · rename_i hgoing
      have hrest := (leads_startAll v.graph.order true v).climbs hfv hkv
      have hone := hv.resolve_left fun hcrash => hgoing (halted_of_crash hcrash)
      exact ⟨startAll_of_changed _ v, Or.inr (hone.trans_climbs hrest)⟩

/-! ## Pass after pass -/

/-- Nothing has stopped the run. -/
def Unstopped (s : Scheduler) : Prop := (s.halted || s.superseded) = false

instance (s : Scheduler) : Decidable (Unstopped s) := inferInstanceAs (Decidable (_ = false))

theorem Unstopped.going (h : Unstopped s) : s.halted = false := (Bool.or_eq_false_iff.1 h).1

theorem not_unstopped_of_crash (h : s.crash.isSome = true) : ¬ Unstopped s := by
  intro hs
  have hgoing := hs.going
  rw [halted_of_crash h] at hgoing
  cases hgoing

/-- Passes follow one another as long as nothing has stopped the run and the last one has changed
something. Nobody counts them. The heads are the schedulers that they begin with. -/
inductive Loop : List Scheduler → Scheduler → Scheduler → Prop
  | stop {s : Scheduler} (stopped : ¬ Unstopped s) : Loop [] s s
  | last {s : Scheduler} (going : Unstopped s) (same : s.pass.1 = false) : Loop [s] s s.pass.2
  | more {s t : Scheduler} {heads : List Scheduler} (going : Unstopped s)
      (changed : s.pass.1 = true) (rest : Loop heads s.pass.2 t) : Loop (s :: heads) s t

/-- There is but one way for the passes to follow one another. -/
theorem Loop.unique {heads' : List Scheduler} (h : Loop heads s t) (h' : Loop heads' s u) :
    heads' = heads ∧ u = t := by
  induction h generalizing heads' u with
  | stop stopped =>
    cases h' with
    | stop => exact ⟨rfl, rfl⟩
    | last going | more going => exact absurd going stopped
  | last going same =>
    cases h' with
    | stop stopped => exact absurd going stopped
    | last => exact ⟨rfl, rfl⟩
    | more _ changed => exact absurd (same.symm.trans changed) Bool.false_ne_true
  | more going changed _ ih =>
    cases h' with
    | stop stopped => exact absurd going stopped
    | last _ same => exact absurd (same.symm.trans changed) Bool.false_ne_true
    | more _ _ rest =>
      obtain ⟨rfl, rfl⟩ := ih rest
      exact ⟨rfl, rfl⟩

/-- A bound that is no smaller than the number of passes cuts nothing off. -/
theorem Loop.passes_eq (h : Loop heads s t) {n : Nat} (hn : heads.length ≤ n) :
    passes n s = t := by
  induction h generalizing n with
  | stop stopped =>
    cases n with
    | zero => rfl
    | succ n => rw [passes, if_pos (Bool.eq_true_of_not_eq_false stopped)]
  | last going same =>
    cases n with
    | zero => cases hn
    | succ n => rw [passes, if_neg (Bool.not_eq_true _ ▸ going)]; simp [same]
  | more going changed _ ih =>
    cases n with
    | zero => cases hn
    | succ n =>
      rw [passes, if_neg (Bool.not_eq_true _ ▸ going)]
      simp [changed, ih (Nat.le_of_succ_le_succ hn)]

/-- Every pass begins with what the run has come to, and nothing has stopped it then. -/
theorem Loop.leads (h : Loop heads s t) : ∀ u ∈ heads, Leads s u ∧ u.halted = false := by
  induction h with
  | stop => simp
  | last going =>
    intro u hu
    obtain rfl := List.mem_singleton.1 hu
    exact ⟨Leads.refl u, going.going⟩
  | more going _ _ ih =>
    intro u hu
    rcases List.mem_cons.1 hu with rfl | hu
    · exact ⟨Leads.refl u, going.going⟩
    · exact (ih u hu).imp_left (leads_pass going.going).trans

/-- When the passes are over the run was stopped, or is settled. -/
theorem Loop.settled (hf : Framed s) (hk : s.gates.Keyed) (h : Loop heads s t)
    (going : Unstopped t) : Settled t := by
  induction h with
  | stop stopped => exact absurd going stopped
  | last hs same =>
    rcases pass_spec hf hk hs.going with ⟨he, hsettled⟩ | ⟨hchanged, _⟩
    · rwa [he]
    · exact absurd (same.symm.trans hchanged) Bool.false_ne_true
  | more hs _ _ ih =>
    obtain ⟨hfv, hkv⟩ := (leads_pass hs.going).framed hf hk
    exact ih hfv hkv going

/-- The passes come to an end, since each but the last uses up one of the steps that are left. -/
theorem exists_loop (hf : Framed s) (hk : s.gates.Keyed) :
    ∃ heads t, Loop heads s t ∧ heads.length + s.progress ≤ 5 * s.graph.order.length + 1 := by
  induction hn : 5 * s.graph.order.length - s.progress using Nat.strong_induction_on
    generalizing s with
  | _ n ih =>
    have hle := progress_le s
    by_cases going : Unstopped s
    · rcases pass_spec hf hk going.going with ⟨he, _⟩ | ⟨hchanged, hcrash | hraises⟩
      · refine ⟨[s], s.pass.2, .last going (by rw [he]), ?_⟩
        simp only [List.length_singleton]
        omega
      · have hend : Loop [] s.pass.2 s.pass.2 := .stop (not_unstopped_of_crash hcrash)
        refine ⟨[s], s.pass.2, .more going hchanged hend, ?_⟩
        simp only [List.length_singleton]
        omega
      · have hlead := leads_pass going.going
        obtain ⟨hfv, hkv⟩ := hlead.framed hf hk
        have hg : s.pass.2.graph = s.graph := (hlead.steady hf hk).graph
        have hlt := hraises.progress_lt hg
        have hlev := progress_le s.pass.2
        rw [hg] at hlev
        obtain ⟨heads, t, hloop, hlen⟩ := ih _ (by rw [hg]; omega) hfv hkv rfl
        rw [hg] at hlen
        refine ⟨s :: heads, t, .more going hchanged hloop, ?_⟩
        simp only [List.length_cons]
        omega
    · refine ⟨[], s, .stop going, ?_⟩
      simp only [List.length_nil]
      omega

/-- The scheduler makes all the passes that there are. -/
theorem loop_advance (hf : Framed s) (hk : s.gates.Keyed) :
    ∃ heads, Loop heads s s.advance ∧ heads.length ≤ 5 * s.graph.order.length + 1 := by
  obtain ⟨heads, t, hloop, hlen⟩ := exists_loop hf hk
  have hbound : heads.length ≤ 5 * s.graph.order.length + 1 := by omega
  obtain rfl : s.advance = t := hloop.passes_eq hbound
  exact ⟨heads, hloop, hbound⟩

theorem settled_advance (hf : Framed s) (hk : s.gates.Keyed) (going : s.advance.halted = false)
    (wanted : s.advance.superseded = false) : Settled s.advance := by
  obtain ⟨_, hloop, _⟩ := loop_advance hf hk
  exact hloop.settled hf hk (Bool.or_eq_false_iff.2 ⟨going, wanted⟩)

/-! ## The law -/

/-- The passes with which a run goes on come to an end of themselves, if nobody else is at the gate
table meanwhile: there are at most five for each instance and one more, and they lead to where the
scheduler gets. One that changes something takes some instance further and none back, unless the run
breaks off in it, and one that changes nothing leaves everything as it was. When they are over
nothing is left to do, or the run was stopped. -/
theorem the_passes_come_to_an_end (h₀ : Poised s₀) (h : Leads s₀ s) :
    ∃ heads, Loop heads s s.advance ∧ heads.length ≤ 5 * s.run.stages.length + 1 ∧
      (∀ heads' t, Loop heads' s t → heads' = heads ∧ t = s.advance) ∧
      (∀ u ∈ heads, (u.pass.1 = true → u.pass.2.crash = none → Raises u u.pass.2) ∧
        (u.pass.1 = false → u.pass.2 = u)) ∧
      (Unstopped s.advance → Settled s.advance) := by
  obtain ⟨hf, hk⟩ := h.framed h₀.framed h₀.keyed
  obtain ⟨heads, hloop, hlen⟩ := loop_advance hf hk
  have hcount : s.graph.order.length = s.run.stages.length := by
    rw [hf.sound.order_perm.length_eq, ← hf.keys, List.length_map]
  refine ⟨heads, hloop, hcount ▸ hlen, fun _ _ h' => hloop.unique h', fun u hu => ?_,
    hloop.settled hf hk⟩
  obtain ⟨hlead, going⟩ := hloop.leads u hu
  obtain ⟨hfu, hku⟩ := hlead.framed hf hk
  rcases pass_spec hfu hku going with ⟨he, _⟩ | ⟨hchanged, hpass⟩
  · rw [he]
    exact ⟨fun hchanged => absurd hchanged Bool.false_ne_true, fun _ => rfl⟩
  · refine ⟨fun _ hwhole => hpass.resolve_left (by simp [hwhole]), fun hsame => ?_⟩
    exact absurd (hsame.symm.trans hchanged) Bool.false_ne_true

/-! ## The passes after an approval -/

/-- The gate of the release is approved, and the scheduler has yet to go on. -/
def shipAllowed : Scheduler :=
  match shipWaiting.gates.decide "r1/prod" (.status .approved) "ann" "" 1 with
  | .ok c => { shipWaiting with gates := c.table }.deliver c.notices
  | .error _ => shipWaiting

theorem leads_shipAllowed : Leads shipStart shipAllowed := by
  unfold shipAllowed
  split
  · rename_i c hc
    exact leads_shipWaiting.snoc (.gates (.decide hc) c.notices)
  · exact leads_shipWaiting

/-- The first pass takes the release past its gate and begins it, and the second finds nothing more
to do. -/
theorem the_release_is_begun_in_the_first_of_two_passes :
    Poised shipStart ∧ Leads shipStart shipAllowed ∧
      ∃ heads, Loop heads shipAllowed shipAllowed.advance ∧ heads.length = 2 ∧
        heads.length ≤ 5 * shipAllowed.run.stages.length + 1 ∧
        shipAllowed.place "deploy" = 2 ∧ shipAllowed.pass.2.place "deploy" = 4 ∧
        Raises shipAllowed shipAllowed.pass.2 := by
  obtain ⟨heads, hloop, hlen, hunique, heach, _⟩ :=
    the_passes_come_to_an_end fresh_shipStart.toPoised leads_shipAllowed
  have hsecond : Loop [shipAllowed.pass.2] shipAllowed.pass.2 shipAllowed.pass.2.pass.2 :=
    .last (by decide +kernel) (by decide +kernel)
  have hchanged : shipAllowed.pass.1 = true := by decide +kernel
  have htwo := Loop.more (by decide +kernel) hchanged hsecond
  obtain ⟨rfl, -⟩ := hunique _ _ htwo
  have hwhole : shipAllowed.pass.2.crash.isNone = true := by decide +kernel
  have hraises := (heach shipAllowed List.mem_cons_self).1 hchanged
    (Option.isNone_iff_eq_none.1 hwhole)
  exact ⟨fresh_shipStart.toPoised, leads_shipAllowed, _, hloop, rfl, hlen, by decide +kernel,
    by decide +kernel, hraises⟩

end GatedPipeline.Scheduler
