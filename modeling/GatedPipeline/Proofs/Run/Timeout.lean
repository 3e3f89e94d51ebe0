-- Gates that wait too long. The scheduler waits until the first of its gates is
-- due, and what it rejects then is just what is due and still pending, whatever
-- others have decided meanwhile. An instance that waits for a rejected gate is
-- skipped when the scheduler goes on.
import GatedPipeline.Proofs.Run.Causes
import GatedPipeline.Proofs.Run.Neighbours
import GatedPipeline.Proofs.Run.Status
import Mathlib.Algebra.Order.Ring.Rat
namespace GatedPipeline

/-! ## The earliest moment -/

theorem exists_earliest {ts : List Time} (h : ts ≠ []) :
    ∃ d, earliest? ts = some d ∧ d ∈ ts ∧ ∀ u ∈ ts, d ≤ u := by
  induction ts with
  | nil => exact absurd rfl h
  | cons t ts ih =>
    by_cases hts : ts = []
    · subst hts
      exact ⟨t, rfl, List.mem_cons_self, fun u hu => le_of_eq (List.mem_singleton.1 hu).symm⟩
    · obtain ⟨d, hd, hmem, hle⟩ := ih hts
      have hfirst : earliest? (t :: ts) = some (if t ≤ d then t else d) := by
        rw [earliest?, hd]
      rw [hfirst]
      by_cases htd : t ≤ d
      · rw [if_pos htd]
        refine ⟨t, rfl, List.mem_cons_self, fun u hu => ?_⟩
        rcases List.mem_cons.1 hu with rfl | hu
        · exact le_refl u
        · exact le_trans htd (hle u hu)
      · rw [if_neg htd]
        refine ⟨d, rfl, List.mem_cons_of_mem _ hmem, fun u hu => ?_⟩
        rcases List.mem_cons.1 hu with rfl | hu
        · exact le_of_not_ge htd
        · exact hle u hu

/-! ## Gates that time out -/

namespace Gate

/-- The gate after it was looked at whether it has been pending too long. -/
def timedOut (g : Gate) (span now : Time) : Gate :=
  if g.status = .pending ∧ span ≤ now - g.requestedAt then
    g.decided .rejected timeoutActor "approval timed out" now
  else g

variable {g : Gate} {span now : Time}

theorem timedOut_of_due (waits : g.status = .pending) (due : span ≤ now - g.requestedAt) :
    g.timedOut span now = g.decided .rejected timeoutActor "approval timed out" now :=
  if_pos ⟨waits, due⟩

/-- Looking a second time makes no difference. -/
theorem timedOut_timedOut (g : Gate) (span now : Time) :
    (g.timedOut span now).timedOut span now = g.timedOut span now := by
  by_cases h : g.status = .pending ∧ span ≤ now - g.requestedAt
  · rw [timedOut_of_due h.1 h.2]
    exact if_neg fun hd => by cases hd.1
  · have hsame : g.timedOut span now = g := if_neg h
    rw [hsame, hsame]

end Gate

namespace GateTable

variable {ι : Type} {t t' u : GateTable ι} {own : String → Prop} {run gid actor comment : String}
  {now : Time}

/-- Gates with some identities stay just as they are while they are pending. -/
def Waits (own : String → Prop) (t t' : GateTable ι) : Prop :=
  ∀ gid g g', own gid → t.get? gid = some g → t'.get? gid = some g' → g'.status = .pending → g' = g

theorem waits_of_same (h : ∀ gid, t'.get? gid = t.get? gid) : Waits own t t' := by
  intro gid g g' _ hg hg' _
  rw [h, hg] at hg'
  exact (Option.some.inj hg').symm

theorem Waits.trans (h : Waits own t t') (hk : Keeps own t t') (h' : Waits own t' u) :
    Waits own t u := by
  intro gid g g'' ho hg hg'' hp
  obtain ⟨g', hg', _⟩ := hk gid g ho hg
  have hlast : g'' = g' := h' gid g' g'' ho hg' hg'' hp
  exact hlast.trans (h gid g g' ho hg hg' (hlast ▸ hp))

theorem waits_decideAs {status : GateStatus} {c : GateChange ι GateStatus}
    (settles : status ≠ .pending) (hc : t.decideAs gid status actor comment now = .ok c) :
    Waits own t c.table := by
  rcases decideAs_spec hc with he | ⟨g, _, _, he⟩
  · exact waits_of_same fun j => by rw [he]
  · intro j g₀ g' _ hg₀ hg' hp
    rw [he j] at hg'
    split at hg'
    · cases hg'
      exact absurd hp settles
    · rw [hg₀] at hg'
      exact (Option.some.inj hg').symm

theorem waits_request (name runId : String) (trigger : Option Trigger)
    (release : Option (List (String × String))) (now : Time) :
    Waits own t (t.request name runId trigger release now).table := by
  obtain ⟨_, hother, _, ⟨_, hsame, _⟩ | ⟨hnone, _⟩⟩ :=
    request_spec t name runId trigger release now
  · exact waits_of_same fun j => by rw [hsame]
  · intro j g g' _ hg hg' _
    have hj : j ≠ gateId runId name := by
      rintro rfl
      rw [hnone] at hg
      cases hg
    rw [hother j hj, hg] at hg'
    exact (Option.some.inj hg').symm

theorem waits_closeAll (ids : List String) (t : GateTable ι) :
    Waits own t (t.closeAll now ids).table := by
  induction ids generalizing t with
  | nil => exact waits_of_same fun _ => rfl
  | cons gid ids ih =>
    rcases closeAll_cons t now gid ids with ⟨he, _⟩ | ⟨c, hc, ht, _⟩
    · rw [he]
      exact ih t
    · rw [ht]
      exact (waits_decideAs (by simp) hc).trans (keeps_decideAs now own hc) (ih c.table)

theorem waits_put {g : Gate} (foreign : ¬ own g.id) : Waits own t (t.put g) := by
  intro j g₀ g' ho hg₀ hg' _
  have hj : j ≠ g.id := by
    rintro rfl
    exact foreign ho
  rw [get?_put, if_neg hj, hg₀] at hg'
  exact (Option.some.inj hg').symm

/-- Whatever others do with the table, the gates of the run that stay pending stay as they are. -/
theorem Touched.waits {notices : List (ι × Gate)} (h : Touched run t t' notices) :
    Waits (fun gid => ∃ name, gid = gateId run name) t t' := by
  cases h with
  | attach | subscribe | unsubscribe => exact waits_of_same fun _ => rfl
  | request => exact waits_request _ _ _ _ _
  | decide hd =>
    obtain ⟨status, hs, hd⟩ := decideAs_of_decide _ hd
    exact waits_decideAs (outcome_ne_pending hs) hd
  | closeRun => exact waits_closeAll _ t
  | restore g foreign => exact waits_put fun ⟨name, hn⟩ => foreign name hn
  | reopen g now foreign => exact waits_put fun ⟨name, hn⟩ => foreign name hn

end GateTable

namespace Scheduler

variable {s₀ s t u e : Scheduler} {id gid : String} {g : Gate} {span now : Time}

/-! ## Awaited gates -/

theorem mem_awaitedGates : gid ∈ s.awaitedGates ↔ ∃ w ∈ s.awaiting, w.2 = gid := by
  simp [awaitedGates, List.mem_eraseDups]

/-- The gates that instances wait for are in the table. -/
def Expects (s : Scheduler) : Prop := ∀ w ∈ s.awaiting, ∃ g, s.gates.get? w.2 = some g

theorem Expects.of_subset (h : Expects s) (hw : WaitsOwn s) (hs : Steady s t)
    (hsub : ∀ w ∈ t.awaiting, w ∈ s.awaiting) : Expects t := by
  intro w hm
  obtain ⟨g, hg⟩ := h w (hsub w hm)
  obtain ⟨g', hg', _⟩ := hs.keeps w.2 g (hw w (hsub w hm)) hg
  exact ⟨g', hg'⟩

theorem Expects.wane (h : Expects s) (hown : WaitsOwn s) (hw : Wane s t) : Expects t := by
  refine h.of_subset hown hw.steady fun w hm => ?_
  rcases hw with ha | hl
  · exact ha.awaiting ▸ hm
  · exact mem_of_mem_dropPair (hl.awaiting ▸ hm)

theorem Expects.rise (hf : Framed s) (h : Expects s) (hown : WaitsOwn s) (hr : Rise e s t) :
    Expects t := by
  have hsteady := (hr.logs hf).steady
  cases hr with
  | block | ready => exact h.of_subset hown hsteady (awaiting_move_subset s _ _ _)
  | @wait i name g known _ _ _ asked =>
    intro w hm
    rcases mem_putPair (awaiting_move_subset _ _ _ _ w hm) with rfl | hm
    · obtain ⟨g', hg', _⟩ := hsteady.keeps _ g ⟨name, rfl⟩ asked
      exact ⟨g', hg'⟩
    · obtain ⟨g, hg⟩ := h w hm
      obtain ⟨g', hg', _⟩ := hsteady.keeps _ g (hown w hm) hg
      exact ⟨g', hg'⟩
  | pass => exact h.of_subset hown hsteady fun w hm => mem_of_mem_dropPair hm
  | start => exact h.of_subset hown hsteady (awaiting_move_subset s _ _ _)
  | succeed known told good was wrote all =>
    refine h.of_subset hown hsteady fun w hm => ?_
    rw [complete_of_success known was good wrote all] at hm
    exact mem_of_mem_dropPair hm

theorem Leads.expects (h₀ : Poised s₀) (h : Leads s₀ s) : WaitsOwn s ∧ Expects s :=
  h.keeps (P := fun v => WaitsOwn v ∧ Expects v) h₀.framed h₀.keyed
    (by simp [WaitsOwn, Expects, h₀.awaiting])
    (fun _ _ _ hu hw => ⟨hu.1.wane hw, hu.2.wane hu.1 hw⟩)
    fun _ _ _ hf hu hr => ⟨hu.1.rise hf hr, hu.2.rise hf hu.1 hr⟩

theorem Leads.expected (h₀ : Poised s₀) (h : Leads s₀ s) (hm : gid ∈ s.awaitedGates) :
    s.OwnGate gid ∧ ∃ g, s.gates.get? gid = some g := by
  obtain ⟨hown, hexpects⟩ := h.expects h₀
  obtain ⟨w, hw, rfl⟩ := mem_awaitedGates.1 hm
  exact ⟨hown w hw, hexpects w hw⟩

/-! ## The deadline -/

theorem mem_deadlines {d : Time} (limit : s.gateTimeout = some span) : d ∈ s.deadlines ↔
    ∃ gid ∈ s.awaitedGates, ∃ g, s.gates.get? gid = some g ∧ d = g.requestedAt + span := by
  simp only [deadlines, limit, List.mem_filterMap, Option.map_eq_some_iff, eq_comm (a := d)]

/-- A run that waits for gates has a deadline: one of them is due then, and none is before. -/
theorem Leads.deadline (h₀ : Poised s₀) (h : Leads s₀ s) (limit : s.gateTimeout = some span)
    (waits : s.awaiting ≠ []) : ∃ d, s.deadline? = some d ∧
      (∃ gid ∈ s.awaitedGates, ∃ g, s.gates.get? gid = some g ∧ d = g.requestedAt + span) ∧
      ∀ gid ∈ s.awaitedGates, ∀ g, s.gates.get? gid = some g → d ≤ g.requestedAt + span := by
  have hsome : s.deadlines ≠ [] := by
    obtain ⟨w, hw⟩ := List.exists_mem_of_ne_nil _ waits
    have hm : w.2 ∈ s.awaitedGates := mem_awaitedGates.2 ⟨w, hw, rfl⟩
    obtain ⟨_, g, hg⟩ := h.expected h₀ hm
    exact List.ne_nil_of_mem ((mem_deadlines limit).2 ⟨w.2, hm, g, hg, rfl⟩)
  obtain ⟨d, hd, hmem, hle⟩ := exists_earliest hsome
  exact ⟨d, hd, (mem_deadlines limit).1 hmem,
    fun gid hm g hg => hle _ ((mem_deadlines limit).2 ⟨gid, hm, g, hg, rfl⟩)⟩

/-- The scheduler waits until the deadline, or not at all if it has passed. -/
theorem wait?_of_deadline {d : Time} (h : s.deadline? = some d) :
    (d ≤ s.now → s.wait? = some 0) ∧ (s.now ≤ d → s.wait? = some (d - s.now)) := by
  have hwait : s.wait? = some (later 0 (d - s.now)) := by rw [wait?, h]; rfl
  rw [hwait, later]
  refine ⟨fun hpast => ?_, fun hahead => if_pos (sub_nonneg.2 hahead) ▸ rfl⟩
  split
  · rename_i hzero
    rw [le_antisymm (sub_nonneg.1 hzero) hpast, sub_self]
  · rfl

/-! ## Rejecting what is due -/

/-- Of one gate: it is rejected if it is due, and nothing else changes about gates. -/
theorem expireGate_spec (span : Time) (hg : s.gates.get? gid = some g) :
    (∀ j, (s.expireGate span gid).gates.get? j =
      if j = gid then some (g.timedOut span s.now) else s.gates.get? j) ∧
    (s.expireGate span gid).now = s.now ∧ (s.expireGate span gid).crash = s.crash := by
  unfold expireGate
  rw [hg]
  dsimp only
  by_cases due : g.status = .pending ∧ span ≤ s.now - g.requestedAt
  · have hdecide : ∃ c, s.gates.decideAs gid .rejected timeoutActor "approval timed out" s.now =
        .ok c ∧ ∀ j, c.table.get? j =
          if j = gid then some (g.timedOut span s.now) else s.gates.get? j := by
      refine ⟨_, by simp only [GateTable.decideAs, hg, due.1, if_true]; rfl, fun j => ?_⟩
      rw [Gate.timedOut_of_due due.1 due.2]
      exact getPair?_putPair gid j _ s.gates.gates
    obtain ⟨c, hc, htable⟩ := hdecide
    rw [if_pos (by simpa using due), hc]
    dsimp only
    obtain ⟨notes, events, he, _⟩ := deliver_eq { s with gates := c.table } c.notices
    rw [he]
    exact ⟨htable, rfl, rfl⟩
  · rw [if_neg (by simpa using due)]
    have hsame : g.timedOut span s.now = g := if_neg due
    refine ⟨fun j => ?_, rfl, rfl⟩
    rw [hsame]
    split
    · rename_i hj
      rw [hj, hg]
    · rfl

/-- Of several gates: those of them that are due are rejected. -/
theorem expireEach_spec {gids : List String}
    (known : ∀ gid ∈ gids, ∃ g, s.gates.get? gid = some g) :
    (∀ j, (gids.foldl (expireGate span) s).gates.get? j =
      (s.gates.get? j).map fun g => if j ∈ gids then g.timedOut span s.now else g) ∧
    (gids.foldl (expireGate span) s).crash = s.crash := by
  induction gids generalizing s with
  | nil => exact ⟨fun j => by simp, rfl⟩
  | cons gid gids ih =>
    obtain ⟨g, hg⟩ := known gid List.mem_cons_self
    obtain ⟨hone, hnow, hcrash⟩ := expireGate_spec span hg
    have hknown : ∀ j ∈ gids, ∃ g, (s.expireGate span gid).gates.get? j = some g := by
      intro j hj
      rw [hone]
      split
      · exact ⟨_, rfl⟩
      · exact known j (List.mem_cons_of_mem _ hj)
    obtain ⟨hrest, hwhole⟩ := ih hknown
    refine ⟨fun j => ?_, hwhole.trans hcrash⟩
    rw [List.foldl_cons, hrest, hone, hnow]
    by_cases hj : j = gid
    · subst hj
      simp [hg, Gate.timedOut_timedOut]
    · simp [hj]

/-- A run rejects just the awaited gates that are due. -/
theorem Leads.expireGates (h₀ : Poised s₀) (h : Leads s₀ s) (limit : s.gateTimeout = some span) :
    (∀ gid, s.expireGates.gates.get? gid = (s.gates.get? gid).map fun g =>
      if gid ∈ s.awaitedGates then g.timedOut span s.now else g) ∧
    s.expireGates.crash = s.crash := by
  rw [Scheduler.expireGates, limit]
  exact expireEach_spec fun gid hm => (h.expected h₀ hm).2

/-! ## What happens while the scheduler waits -/

/-- What others do while the scheduler waits: someone asks for a cancellation or for what is ready,
a body ends, something is done with the gate table, or time passes. -/
inductive Outside (s : Scheduler) : Scheduler → Prop
  | cancel (reason : String) : Outside s (s.cancel reason)
  | report (id : String) (r : BodyReport) :
      Outside s ({ s with bodies := s.bodies.filter (·.id ≠ id) }.push (.done id r))
  | gates {table : GateTable Nat} {notices : List (Nat × Gate)}
      (touched : GateTable.Touched s.run.id s.gates table notices) (heard : List (Nat × Gate)) :
      Outside s ({ s with gates := table }.deliver heard)
  | clock (now : Time) : Outside s { s with now }
  | decide : Outside s s.decideRelease.2

def Meanwhile : Scheduler → Scheduler → Prop := Relation.ReflTransGen Outside

theorem Outside.step (h : Outside s t) : Step s t := by
  cases h with
  | cancel reason => exact .cancel reason
  | report id r => exact .report id r
  | gates touched heard => exact .gates touched heard
  | clock now => exact .clock now
  | decide => exact .decide

/-- The scheduler itself stays as it is. -/
structure Rests (s t : Scheduler) : Prop where
  runId : t.run.id = s.run.id
  awaiting : t.awaiting = s.awaiting
  gateTimeout : t.gateTimeout = s.gateTimeout
  keeps : GateTable.Keeps s.OwnGate s.gates t.gates
  waits : GateTable.Waits s.OwnGate s.gates t.gates

theorem rests_of_same (hrun : t.run.id = s.run.id) (ha : t.awaiting = s.awaiting)
    (hlimit : t.gateTimeout = s.gateTimeout) (hg : t.gates = s.gates) : Rests s t where
  runId := hrun
  awaiting := ha
  gateTimeout := hlimit
  keeps := hg ▸ GateTable.Keeps.refl _ _
  waits := GateTable.waits_of_same fun _ => by rw [hg]

theorem Rests.trans (h : Rests s t) (h' : Rests t u) : Rests s u where
  runId := h'.runId.trans h.runId
  awaiting := h'.awaiting.trans h.awaiting
  gateTimeout := h'.gateTimeout.trans h.gateTimeout
  keeps := h.keeps.trans (ownGate_congr h.runId ▸ h'.keeps)
  waits := h.waits.trans h.keeps (ownGate_congr h.runId ▸ h'.waits)

theorem Outside.rests (h : Outside s t) : Rests s t := by
  cases h with
  | cancel | report | clock => exact rests_of_same rfl rfl rfl rfl
  | @gates table _ touched heard =>
    obtain ⟨notes, events, he, _⟩ := deliver_eq { s with gates := table } heard
    rw [he]
    exact ⟨rfl, rfl, rfl, touched.keeps, touched.waits⟩
  | decide =>
    obtain ⟨engine, notes, outputs, he, _⟩ := decideRelease_eq s
    rw [he]
    exact rests_of_same rfl rfl rfl rfl

theorem Meanwhile.leads (h : Meanwhile s t) : Leads s t := by
  induction h with
  | refl => exact Leads.refl s
  | tail _ hone ih => exact ih.snoc hone.step

theorem Meanwhile.rests (h : Meanwhile s t) : Rests s t := by
  induction h with
  | refl => exact rests_of_same rfl rfl rfl rfl
  | tail _ hone ih => exact ih.trans hone.rests

/-! ## Who waits for a rejected gate -/

/-- The instance waits for the gate, which is rejected. -/
structure ShutOut (s : Scheduler) (id gid : String) (g : Gate) : Prop where
  ready : s.state id = .ready
  waits : getPair? id s.awaiting = some gid
  own : s.OwnGate gid
  known : s.gates.get? gid = some g
  rejected : g.status = .rejected

/-- What did not move the instance, and did not let it stop waiting, leaves it where it is. -/
theorem ShutOut.steady (h : ShutOut s id gid g) (hs : Steady s t) (ready : t.state id = .ready)
    (waits : getPair? id t.awaiting = some gid) : ShutOut t id gid g := by
  obtain ⟨g', hg', hsame⟩ := hs.keeps gid g h.own h.known
  obtain rfl : g' = g := hsame (by rw [h.rejected]; simp)
  exact ⟨ready, waits, hs.ownGate ▸ h.own, hg', h.rejected⟩

theorem ShutOut.wane (h : ShutOut s id gid g) (hw : Wane s t) :
    ShutOut t id gid g ∨ (t.state id).isLost = true := by
  rcases hw with ha | @⟨j, r, hl⟩
  · exact Or.inl (h.steady ha.toSteady ((ha.state id).trans h.ready) (ha.awaiting ▸ h.waits))
  · by_cases hid : id = j
    · refine Or.inr ?_
      rw [hl.state, if_pos hid]
      exact hl.lost
    · refine Or.inl (h.steady hl.toSteady ?_ ?_)
      · rw [hl.state, if_neg hid]
        exact h.ready
      · rw [hl.awaiting, getPair?_dropPair, if_neg hid]
        exact h.waits

/-- Nobody who waits for a rejected gate comes forward. -/
theorem ShutOut.rise (hf : Framed s) (h : ShutOut s id gid g) (hr : Rise e s t) :
    ShutOut t id gid g := by
  have hsteady := (hr.logs hf).steady
  have hother : ∀ {j : String} {st : State}, s.state j = st → st ≠ .ready → id ≠ j := by
    rintro j st hst hne rfl
    exact hne (hst ▸ h.ready)
  have hwaiting : ∀ {j : String}, s.state j = .pending ∨ s.state j = .blocked → id ≠ j :=
    fun was => was.elim (fun hs => hother hs (by simp)) fun hs => hother hs (by simp)
  cases hr with
  | @block j _ was =>
    have hid : id ≠ j := hother was (by simp)
    refine h.steady hsteady ((state_move_ne hid _ _).trans h.ready) ?_
    rw [move_of_unended (by rw [was]; rfl) rfl]
    exact h.waits
  | @ready i _ was =>
    refine h.steady hsteady ((state_move_ne (hwaiting was) _ _).trans h.ready) ?_
    rw [move_of_unended (State.not_isTerminal_of_isWaiting (isWaiting_of_was was)) rfl]
    exact h.waits
  | @wait i name _ _ was =>
    refine h.steady hsteady ((state_move_ne (hwaiting was) _ _).trans h.ready) ?_
    rw [move_of_unended (s := { s with
      awaiting := putPair i.id (gateId s.run.id name) s.awaiting })
      (State.not_isTerminal_of_isWaiting (isWaiting_of_was was)) rfl]
    exact (getPair?_putPair _ _ _ _).trans ((if_neg (hwaiting was)).trans h.waits)
  | @pass j gid' g' _ waits known approved =>
    have hid : id ≠ j := by
      rintro rfl
      rw [h.waits] at waits
      cases waits
      rw [h.known] at known
      cases known
      rw [h.rejected] at approved
      cases approved
    exact h.steady hsteady h.ready (by rw [getPair?_dropPair, if_neg hid]; exact h.waits)
  | @start j inputs _ _ _ able =>
    obtain ⟨was, free⟩ := ready_of_startable able
    have hid : id ≠ j := by
      rintro rfl
      rw [h.waits] at free
      cases free
    rw [start_eq (by rw [was]; rfl)] at hsteady ⊢
    exact h.steady hsteady ((state_putPair _ _ rfl).trans ((if_neg hid).trans h.ready)) h.waits
  | @succeed i report rest o known told good was wrote all =>
    have hid : id ≠ i.id := hother was (by simp)
    rw [complete_of_success known was good wrote all] at hsteady ⊢
    refine h.steady hsteady ((state_putPair _ _ rfl).trans ((if_neg hid).trans h.ready)) ?_
    rw [getPair?_dropPair, if_neg hid]
    exact h.waits

theorem Step.shutOut (hf : Framed s) (hk : s.gates.Keyed) (hstep : Step s t)
    (h : ShutOut s id gid g) : ShutOut t id gid g ∨ (t.state id).isLost = true := by
  have hlost : ∀ {u v : Scheduler}, Logs u v → (u.state id).isLost = true →
      (v.state id).isLost = true := fun hl hu =>
    (hl.forward id).2 (State.isTerminal_of_isLost hu) ▸ hu
  refine hstep.keeps (P := fun v => ShutOut v id gid g ∨ (v.state id).isLost = true) hf hk
    (Or.inl h) (fun u v _ hu hw => ?_) fun e u v hfu hu hr => ?_
  · exact hu.elim (fun hu => hu.wane hw) fun hu => Or.inr (hlost hw.logs hu)
  · exact hu.elim (fun hu => Or.inl (hu.rise hfu hr)) fun hu => Or.inr (hlost (hr.logs hfu) hu)

/-- A step that moves such an instance skips it, or sweeps it away. -/
theorem Step.skips (hf : Framed s) (hstep : Step s t) (h : ShutOut s id gid g)
    (hne : t.state id ≠ s.state id) : t.state id = .skipped ∨ Swept s t id := by
  refine (hstep.moved hf hne).imp_left fun hown => ?_
  cases hown with
  | report _ was => rw [h.ready] at was; cases was
  | start able =>
    obtain ⟨_, free⟩ := ready_of_startable able
    rw [h.waits] at free
    cases free
  | look =>
    obtain ⟨i, rfl, hi⟩ := hf.instance_of_unpending (by rw [h.ready]; simp)
    rcases visit_cases hi with ⟨was, _⟩ | ⟨gid', was, waits, hv⟩ | hv
    · rw [h.ready] at was
      rcases was with was | was <;> cases was
    · rw [h.waits] at waits
      cases waits
      rw [hv] at hne ⊢
      exact (state_checkGate was gid).resolve_left fun hsame => hne (hsame.trans was.symm)
    · rw [hv] at hne
      exact absurd rfl hne

/-- Such an instance stays where it is until it is skipped or swept away. -/
theorem Leads.shutOut (hf : Framed s) (hk : s.gates.Keyed) (hlead : Leads s t)
    (h : ShutOut s id gid g) : ShutOut t id gid g ∨ t.state id = .skipped ∨
      ∃ u v, Leads s u ∧ Step u v ∧ Swept u v id ∧ Leads v t := by
  induction hlead with
  | refl => exact Or.inl h
  | @tail u v hu hstep ih =>
    obtain ⟨hfu, hku⟩ := Leads.framed hf hk hu
    rcases ih with hshut | hskipped | ⟨w, x, hw, hsweep, hswept, hx⟩
    · by_cases hsame : v.state id = u.state id
      · refine Or.inl ((hstep.shutOut hfu hku hshut).resolve_right fun hlost => ?_)
        rw [hsame, hshut.ready] at hlost
        cases hlost
      · exact (hstep.skips hfu hshut hsame).elim (fun hs => Or.inr (Or.inl hs)) fun hswept =>
          Or.inr (Or.inr ⟨u, v, hu, hstep, hswept, Leads.refl v⟩)
    · refine Or.inr (Or.inl ?_)
      rw [(hstep.forward hfu hku id).2 (by rw [hskipped]; rfl), hskipped]
    · exact Or.inr (Or.inr ⟨w, x, hw, hsweep, hswept, hx.snoc hstep⟩)

/-- A run that was cancelled stays so. -/
theorem Leads.superseded (h₀ : Poised s₀) (h : Leads s₀ s) (h' : Leads s t)
    (cancelled : s.superseded = true) : t.superseded = true := by
  obtain ⟨u, hu, asked, hobey, hs⟩ := (h.superseded_iff h₀).1 cancelled
  exact ((h.trans h').superseded_iff h₀).2 ⟨u, hu, asked, hobey, hs.trans h'⟩

/-- When the scheduler has gone as far as it can, and the run was not stopped, an instance that
waited for a rejected gate is skipped, unless it was cancelled by a failure on the way. -/
theorem Leads.skipped_of_shutOut (h₀ : Poised s₀) (h : Leads s₀ s) (hshut : ShutOut s id gid g)
    (going : s.advance.halted = false) (unasked : s.advance.superseded = false) :
    s.advance.state id = .skipped ∨ s.advance.state id = .cancelled ∧
      ∃ i, s.graph.instance? i.id = some i ∧ (s.state i.id).isTerminal = false ∧
        s.advance.state i.id = .failed ∧ id ∈ s.takenAlong i := by
  obtain ⟨hf, hk⟩ := h.framed h₀.framed h₀.keyed
  rcases (leads_advance s).shutOut hf hk hshut with
    hstill | hskipped | ⟨u, v, hu, hstep, hswept, hv⟩
  · -- the scheduler would not have left it there
    obtain ⟨i, rfl, hi⟩ := hf.instance_of_unpending (by rw [hshut.ready]; simp)
    have hgraph : s.advance.graph = s.graph := ((leads_advance s).steady hf hk).graph
    have hidle := (settled_advance hf hk going unasked).idle i.id
      (hgraph ▸ hf.order_of_present (hf.present hi)) i (hgraph ▸ hi)
    obtain ⟨g', hg', hpending⟩ := hidle.gated gid hstill.ready hstill.waits
    rw [hstill.known] at hg'
    cases hg'
    rw [hstill.rejected] at hpending
    cases hpending
  · exact Or.inl hskipped
  · obtain ⟨hfu, hku⟩ := hu.framed hf hk
    obtain ⟨hfv, hkv⟩ := hstep.framed hfu hku
    have hkept : ∀ {j : String}, (v.state j).isTerminal = true → s.advance.state j = v.state j :=
      hv.state_of_ended hfv hkv
    refine Or.inr ⟨(hkept (by rw [hswept.cancelled]; rfl)).trans hswept.cancelled, ?_⟩
    cases hswept.cause with
    | aborted aborted =>
      have hstopped : s.advance.fatal = true := (hv.steady hfv hkv).fatal aborted
      rw [halted, hstopped] at going
      cases going
    | superseded cancelled =>
      have hstopped := ((h.trans hu).snoc hstep).superseded h₀ hv cancelled
      rw [hstopped] at unasked
      cases unasked
    | @failed i known was failed taken =>
      have hsteady : Steady s u := hu.steady hf hk
      have hopen : (s.state i.id).isTerminal = false := by
        by_contra he
        rw [hu.state_of_ended hf hk (by simpa using he)] at was
        exact he was
      have hgraph : u.graph = s.graph := hsteady.graph
      exact ⟨i, hgraph ▸ known, hopen, (hkept (by rw [failed]; rfl)).trans failed,
        takenAlong_congr hgraph hsteady.failFast i ▸ taken⟩

/-! ## The law -/

/-- While a run with a limit waits for gates, the scheduler waits until the first of them is due, or
not at all if it is due already. When it has waited, it rejects just those of the awaited gates that
are pending and due; among them is the one that it waited for, unless someone has decided it
meanwhile. And when it has gone on from there, every instance that waited for a rejected gate is
skipped, unless the run was stopped or a failure has cancelled the instance before. -/
theorem a_gate_that_has_waited_too_long_is_rejected (h₀ : Poised s₀) (h : Leads s₀ s)
    (limit : s.gateTimeout = some span) (waits : s.awaiting ≠ []) :
    (∃ d, s.deadline? = some d ∧
      (∃ gid ∈ s.awaitedGates, ∃ g, s.gates.get? gid = some g ∧ d = g.requestedAt + span) ∧
      (∀ gid ∈ s.awaitedGates, ∀ g, s.gates.get? gid = some g → d ≤ g.requestedAt + span) ∧
      (d ≤ s.now → s.wait? = some 0) ∧ (s.now ≤ d → s.wait? = some (d - s.now)) ∧
      ∀ t, Meanwhile s t → d ≤ t.now →
        ∀ gid ∈ s.awaitedGates, ∀ g, s.gates.get? gid = some g → d = g.requestedAt + span →
          ∃ g', t.gates.get? gid = some g' ∧ (g'.status = .pending →
            t.expireGates.gates.get? gid =
              some (g.decided .rejected timeoutActor "approval timed out" t.now))) ∧
    (∀ now, { s with now }.expireGates.crash = s.crash ∧
      ∀ gid, { s with now }.expireGates.gates.get? gid = (s.gates.get? gid).map fun g =>
        if gid ∈ s.awaitedGates ∧ g.status = .pending ∧ span ≤ now - g.requestedAt then
          g.decided .rejected timeoutActor "approval timed out" now
        else g) ∧
    ∀ u id gid g, Leads s₀ u → getPair? id u.awaiting = some gid → u.gates.get? gid = some g →
      g.status = .rejected → u.advance.halted = false → u.advance.superseded = false →
        u.advance.state id = .skipped ∨ u.advance.state id = .cancelled ∧
          ∃ i, u.graph.instance? i.id = some i ∧ (u.state i.id).isTerminal = false ∧
            u.advance.state i.id = .failed ∧ id ∈ u.takenAlong i := by
  refine ⟨?_, fun now => ?_, fun u id gid g hu hwaits hg hrejected going unasked => ?_⟩
  · obtain ⟨d, hd, hfirst, hle⟩ := h.deadline h₀ limit waits
    obtain ⟨hpast, hahead⟩ := wait?_of_deadline hd
    refine ⟨d, hd, hfirst, hle, hpast, hahead, fun t ht hnow gid hm g hg hdue => ?_⟩
    have hrests := ht.rests
    obtain ⟨hown, _⟩ := h.expected h₀ hm
    obtain ⟨g', hg', _⟩ := hrests.keeps gid g hown hg
    refine ⟨g', hg', fun hpending => ?_⟩
    obtain rfl : g' = g := hrests.waits gid g g' hown hg hg' hpending
    have hawaited : gid ∈ t.awaitedGates := by rwa [awaitedGates, hrests.awaiting]
    have hspan : span ≤ t.now - g'.requestedAt := le_sub_iff_add_le'.2 (hdue ▸ hnow)
    rw [((h.trans ht.leads).expireGates h₀ (hrests.gateTimeout.trans limit)).1, hg']
    simp only [Option.map_some, if_pos hawaited, Gate.timedOut_of_due hpending hspan]
  · have hclock : Leads s₀ { s with now } := h.snoc (.clock now)
    obtain ⟨hgates, hcrash⟩ := hclock.expireGates h₀ limit
    refine ⟨hcrash, fun gid => (hgates gid).trans (congrFun (congrArg Option.map ?_) _)⟩
    funext g
    rw [Gate.timedOut, ← ite_and]
    rfl
  · obtain ⟨hf, hk⟩ := hu.framed h₀.framed h₀.keyed
    have htidy : Tidy u := hu.tidy h₀
    refine hu.skipped_of_shutOut h₀ ⟨htidy.awaiting id gid hwaits, hwaits, ?_, hg, hrejected⟩ going
      unasked
    exact (hu.waitsOwn h₀) (id, gid) (mem_of_getPair? hwaits)

/-! ## A preview and a release -/

/-- A workflow with a preview behind a gate, and a release behind another one after the tests. -/
def previewWorkflow : Workflow where
  name := "ci"
  stages := [
    { name := "preview", environment := some "staging" },
    { name := "test" },
    { name := "release", needs := ["test"], environment := some "production" }]

/-- The scheduler of a run of it that waits a minute for each gate. -/
def previewStart : Scheduler :=
  match ({ gateTimeout := some 60 } : Orchestrator).prepareStart previewWorkflow {} none "r1" 0 0
    with
  | (_, .ready s _) => s
  | _ => default

/-- The tests have taken half a minute. -/
def previewTested : Scheduler :=
  ({ previewStart.begin with now := 30 }.endBody "test" .default).2.turn

theorem fresh_previewStart : Fresh previewStart := by
  obtain ⟨_, _, ready⟩ : ∃ o group, ({ gateTimeout := some 60 } : Orchestrator).prepareStart
      previewWorkflow {} none "r1" 0 0 = (o, .ready previewStart group) :=
    Prepared.exists_ready (by decide +kernel)
  exact Orchestrator.fresh_prepareStart ready

theorem leads_previewTested : Leads previewStart previewTested :=
  (((leads_begin _).snoc (.clock 30)).trans (leads_endBody _ _ _)).trans (leads_turn _)

/-- The first gate is a minute old. -/
def previewOverdue : Scheduler := { previewTested with now := 60 }.expireGates

theorem leads_previewOverdue : Leads previewStart previewOverdue :=
  (leads_previewTested.snoc (.clock 60)).trans (owns_expireGates _).leads

/-- The scheduler waits for another half minute. The gate of the preview is rejected then and the
preview skipped; the gate of the release may wait longer. -/
theorem the_preview_has_waited_a_minute :
    previewTested.wait? = some 30 ∧
    (∃ g, previewOverdue.gates.get? "r1/staging" = some g ∧ g.status = .rejected ∧
      g.actor = some timeoutActor) ∧
    (∃ g, previewOverdue.gates.get? "r1/production" = some g ∧ g.status = .pending) ∧
    previewOverdue.advance.state "preview" = .skipped := by
  have hlimit : previewTested.gateTimeout = some 60 := by decide +kernel
  obtain ⟨⟨d, hd, _, _, _, hahead, _⟩, hexpire, hskip⟩ :=
    a_gate_that_has_waited_too_long_is_rejected fresh_previewStart.toPoised leads_previewTested
      hlimit (by decide +kernel)
  have hdue : previewTested.deadline? = some 60 := by decide +kernel
  rw [hdue] at hd
  cases hd
  have hgates : ∀ gid, previewOverdue.gates.get? gid = _ := (hexpire 60).2
  obtain ⟨g, hg, hrejected, hactor⟩ : ∃ g, previewOverdue.gates.get? "r1/staging" = some g ∧
      g.status = .rejected ∧ g.actor = some timeoutActor := by
    rw [hgates]
    exact ⟨_, (Option.some_get (by decide +kernel)).symm, by decide +kernel, by decide +kernel⟩
  have hwait := hahead (by decide +kernel)
  refine ⟨hwait.trans (by decide +kernel), ⟨g, hg, hrejected, hactor⟩, ?_, ?_⟩
  · rw [hgates]
    exact ⟨_, (Option.some_get (by decide +kernel)).symm, by decide +kernel⟩
  · refine (hskip _ "preview" "r1/staging" g leads_previewOverdue (by decide +kernel) hg hrejected
      (by decide +kernel) (by decide +kernel)).resolve_right ?_
    rintro ⟨hcancelled, _⟩
    revert hcancelled
    decide +kernel

end Scheduler

end GatedPipeline
