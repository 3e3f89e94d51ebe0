-- The end of a run closes its gates. At every moment of a run a gate that is
-- recorded as pending is one that the table holds as pending; so what the run
-- rejects at its end, and writes down before it stops listening, leaves no gate
-- of the run pending, neither in the table nor in the store.
import GatedPipeline.Proofs.Gate.Isolation
import GatedPipeline.Proofs.Run.Overtake
namespace GatedPipeline

/-! ## What a run owes to a recorded gate -/

namespace Copies

variable {c d : Copies} {g r : Gate}

/-- A gate that is recorded as pending is pending in the table. -/
def Attended (c : Copies) : Prop :=
  ∀ r, c.row = some r → r.status = .pending → ∃ g, c.held = some g ∧ g.status = .pending

theorem Agree.attended (h : Agree c) : Attended c := by
  intro r hr waiting
  rw [Agree, hr] at h
  rcases hheld : c.held with _ | g
  · rw [hheld] at h
    cases h
  · rw [hheld] at h
    exact ⟨g, rfl, (status_eq_of_verdict (Option.some.inj h)).symm.trans waiting⟩

theorem attended_noted (g : Gate) {row : Option Gate}
    (h : ∀ r, row = some r → r.status = .pending → g.status = .pending) :
    Attended ⟨some g, Copies.noted g row⟩ := by
  intro r hr waiting
  refine ⟨g, rfl, ?_⟩
  rcases row with _ | old
  · cases hr
    exact waiting
  · by_cases hp : old.status = .pending
    · exact h old rfl hp
    · simp only [Copies.noted, hp, if_false] at hr
      cases hr
      exact absurd waiting hp

theorem Shift.attended (h : Shift c d) (hc : Attended c) : Attended d := by
  cases h with
  | still => exact hc
  | noted g row =>
    refine attended_noted g fun r hr waiting => ?_
    obtain ⟨g', hg, hp⟩ := hc r hr waiting
    cases hg
    exact hp
  | asked g row =>
    refine attended_noted g fun r hr waiting => ?_
    obtain ⟨_, hg, _⟩ := hc r hr waiting
    cases hg
  | @decided g g' row waiting settled =>
    -- The row is decided together with the gate, or was before.
    intro r hr hp
    rcases row with _ | old
    · cases hr
      exact absurd hp settled
    · by_cases hold : old.status = .pending
      · simp only [Copies.noted, hold, if_true] at hr
        cases hr
        exact absurd hp settled
      · simp only [Copies.noted, hold, if_false] at hr
        cases hr
        exact absurd hp hold
  | outside held waiting settled =>
    intro r hr hp
    cases hr
    exact absurd hp settled

/-- A gate that is decided in the table stays so. -/
theorem Shift.held_of_decided (h : Shift c d) (hg : c.held = some g) (hd : g.status ≠ .pending) :
    d.held = some g := by
  cases h with
  | still | noted | outside => exact hg
  | asked => cases hg
  | decided _ waiting => exact absurd waiting (Option.some.inj hg ▸ hd)

/-- If the run waits for none of its gates, none is recorded as pending. -/
theorem Attended.recorded (h : Attended c) (closed : Closed c) (hr : c.row = some r) :
    r.status ≠ .pending := by
  intro waiting
  obtain ⟨g, hg, hp⟩ := h r hr waiting
  exact closed g hg hp

end Copies

namespace Journaled

open Scheduler

variable {start p q : Journaled} {s : Scheduler} {table : GateTable Nat} {gs : List Gate}
  {id runId : String} {g r : Gate}

/-! ## What a run keeps along the way -/

/-- The rows under the identities of the run's gates are of the run. -/
def Housed (p : Journaled) : Prop :=
  ∀ id r, p.run.OwnGate id → p.store.gate? id = some r → r.runId = p.run.run.id

theorem housed_after (h : Handles p.run s table gs) (mine : ∀ g ∈ gs, g.runId = p.run.run.id)
    (hp : Housed p) (now : Time) : Housed (p.after now s) := by
  obtain ⟨ws, hw, rfl⟩ := h.writes
  intro id r own hr
  rw [after, ownGate_congr h.runId] at own
  rw [after, hw, List.drop_left] at hr
  rw [after, h.runId]
  rcases RunStore.gate?_foldl_cases p.store now ws id with he | ⟨g, hg, he⟩
  · exact hp id r own (he.symm.trans hr)
  · obtain rfl := Option.some.inj (he.symm.trans hr)
    exact mine _ hg

theorem runId_heard {notices : List (Nat × Gate)} :
    ∀ g ∈ p.run.heard notices, g.runId = p.run.run.id := fun _ hg => (mem_heard.1 hg).2

theorem housed_of_work (hp : Orderly p) (hh : Housed p) (h : Work p.run s) (now : Time) :
    Housed (p.after now s) := by
  cases h.gateWork with
  | none h => exact housed_after h (by simp) hh now
  | request name trigger release clock h =>
    refine housed_after h (fun g hg => ?_) hh now
    rcases List.mem_append.1 hg with hg | hg
    · exact runId_heard g hg
    · obtain rfl := List.mem_singleton.1 hg
      obtain ⟨_, _, _, ⟨hold, _⟩ | ⟨_, hrun, _⟩⟩ :=
        GateTable.request_spec p.run.gates name p.run.run.id trigger release clock
      · exact hp.owned _ _ ⟨name, rfl⟩ hold
      · exact hrun
  | expire _ h => exact housed_after h runId_heard hh now

theorem Elsewhere.housed (hh : Housed p) (h : Elsewhere p q) : Housed q := by
  cases h with
  | decide | table => exact housed_after (handles_told _ _ _) runId_heard hh _
  | poll h =>
    cases h with
    | pass => exact housed_after (handles_told _ _ _) runId_heard hh _
  | @record j actor comment status answer clock store _ decided =>
    intro id r own hr
    rcases RunStore.decideGate_cases decided with he | ⟨g, hg, _, he⟩
    · exact hh id r own (by rw [← he]; exact hr)
    · have hrow : store.gate? id = _ :=
        (congrArg (getPair? id) he).trans (getPair?_putPair j id _ p.store.gates)
      by_cases hid : id = j
      · rw [if_pos hid] at hrow
        cases hrow.symm.trans hr
        exact hh id g own (hid ▸ hg)
      · rw [if_neg hid] at hrow
        exact hh id r own (hrow.symm.trans hr)
  | rows _ same => exact fun id r own hr => hh id r own ((same id own).symm.trans hr)

/-- What is so at every moment of a run: it listens, its gates are where they belong, and those of
them that are recorded as pending are pending in the table. -/
structure Attends (p : Journaled) : Prop where
  orderly : Orderly p
  listens : Listens p
  housed : Housed p
  attended : ∀ id, p.run.OwnGate id → (p.copies id).Attended

theorem Deed.attends (hp : Attends p) (h : Deed p q) : Attends q := by
  have hsteps := h.steps hp.orderly hp.listens
  refine ⟨hsteps.orderly, hsteps.listens, ?_, fun id own => ?_⟩
  · cases h with
    | work h now => exact housed_of_work hp.orderly hp.housed h now
    | elsewhere h => exact h.housed hp.housed
  · rw [ownGate_congr hsteps.runId] at own
    exact (hsteps.shift id own).attended (hp.attended id own)

/-- Along a run its gates are attended to, and those that are decided stay as they are, each copy
by itself. -/
theorem Deeds.attends (hp : Attends p) (h : Deeds p q) :
    Attends q ∧ q.run.run.id = p.run.run.id ∧ ∀ id, p.run.OwnGate id → ∀ g, g.status ≠ .pending →
      ((p.copies id).held = some g → (q.copies id).held = some g) ∧
      ((p.copies id).row = some g → (q.copies id).row = some g) := by
  induction h with
  | refl => exact ⟨hp, rfl, fun _ _ _ _ => ⟨fun h => h, fun h => h⟩⟩
  | @tail a b _ hdeed ih =>
    obtain ⟨ha, hrun, hstays⟩ := ih
    have hsteps := hdeed.steps ha.orderly ha.listens
    refine ⟨hdeed.attends ha, hsteps.runId.trans hrun, fun id own g hd => ?_⟩
    have hshift := hsteps.shift id (by rwa [ownGate_congr hrun])
    obtain ⟨hheld, hrow⟩ := hstays id own g hd
    exact ⟨fun h => hshift.held_of_decided (hheld h) hd,
      fun h => hshift.row_of_recorded (hrow h) hd⟩

/-! ## The end -/

/-- The end of a run rejects a gate for which it still waits, and writes that down. -/
theorem copies_ends_of_pending (hp : Attends p) (own : p.run.OwnGate id) (now : Time)
    (hg : p.run.gates.get? id = some g) (waiting : g.status = .pending) :
    (p.ends now).copies id = ⟨some (g.closedAt p.run.now),
      Copies.noted (g.closedAt p.run.now) (p.store.gate? id)⟩ := by
  have hrun := hp.orderly.owned id g own hg
  have h := handles_finish p.run
  have hget : (p.run.gates.closeRun p.run.run.id p.run.now).table.get? id = _ :=
    GateTable.get?_closeRun hp.orderly.keyed hg hrun
  rw [if_pos waiting] at hget
  have hheld : (p.ends now).run.gates.get? id = some (g.closedAt p.run.now) := by
    rw [ends, after, h.gates]
    exact hget
  cases GateTable.told_closeAll hp.orderly.keyed p.run.now
      ((p.run.gates.pending (some p.run.run.id)).map Gate.id) id with
  | still same =>
    have hsame := Option.some.inj (hget.symm.trans (same.trans hg))
    rw [← hsame] at waiting
    cases waiting
  | @decided _ g' was _ is _ hrun' stands told all =>
    obtain rfl : g' = g.closedAt p.run.now := Option.some.inj (is.symm.trans hget)
    have hrow := gate?_after (g := g.closedAt p.run.now) h
      (fun g' hg' hid => told _ (mem_heard.1 hg').1 hid) now
    rw [if_pos ⟨mem_heard.2 ⟨all _ hp.listens, hrun⟩, stands⟩] at hrow
    rw [copies, hheld]
    exact congrArg (Copies.mk _) hrow

/-- The gates of other runs have no part in the end of a run. -/
theorem copies_ends_of_foreign (foreign : ¬ p.run.OwnGate id) (now : Time) :
    (p.ends now).copies id = p.copies id := by
  refine copies_of_silent (handles_finish p.run) ?_ (fun g hg hid => foreign ?_) now
  · exact GateTable.get?_closeRun_of_foreign p.run.gates fun name he => foreign ⟨name, he⟩
  · exact ⟨g.name, by rw [← hid, Gate.id, runId_heard g hg]⟩

/-- What stands in the table or the store as a gate of the run has the identity of one. -/
theorem own_of_runId (hp : Orderly p) (id : String) (hrun : g.runId = p.run.run.id)
    (hg : p.run.gates.get? id = some g ∨ p.store.gate? id = some g) : p.run.OwnGate id := by
  have hid : g.id = id := hg.elim (hp.keyed id g) hp.filed.id_of_gate?
  exact ⟨g.name, by rw [← hid, Gate.id, hrun]⟩

/-- What stands there as a gate of another run has not. -/
theorem foreign_of_runId (hp : Orderly p) (hh : Housed p) (id : String)
    (hrun : g.runId ≠ p.run.run.id)
    (hg : p.run.gates.get? id = some g ∨ p.store.gate? id = some g) : ¬ p.run.OwnGate id :=
  fun own => hrun (hg.elim (hp.owned id g own) (hh id g own))

/-- The end of a run leaves the gates of other runs as they are. -/
theorem ends_of_foreign (hp : Attends p) (now : Time) (id : String)
    (foreign : g.runId ≠ p.run.run.id) :
    ((p.ends now).run.gates.get? id = some g ↔ p.run.gates.get? id = some g) ∧
      ((p.ends now).store.gate? id = some g ↔ p.store.gate? id = some g) := by
  obtain ⟨he, hrune, _⟩ := steps_of_ends hp.orderly hp.listens now
  have hhoused : Housed (p.ends now) := housed_after (handles_finish p.run) runId_heard hp.housed now
  have hbefore := foreign_of_runId hp.orderly hp.housed id foreign
  have hafter := foreign_of_runId he hhoused id (hrune ▸ foreign)
  rw [ownGate_congr hrune] at hafter
  have hsame : ¬ p.run.OwnGate id →
      (p.ends now).run.gates.get? id = p.run.gates.get? id ∧
        (p.ends now).store.gate? id = p.store.gate? id :=
    fun hid => Copies.mk.inj (copies_ends_of_foreign hid now)
  refine ⟨⟨fun hin => ?_, fun hin => ?_⟩, fun hin => ?_, fun hin => ?_⟩
  · exact (hsame (hafter (Or.inl hin))).1.symm.trans hin
  · exact (hsame (hbefore (Or.inl hin))).1.trans hin
  · exact (hsame (hafter (Or.inr hin))).2.symm.trans hin
  · exact (hsame (hbefore (Or.inr hin))).2.trans hin

/-! ## After the end -/

theorem orderly_of_later (hp : Orderly p) (later : Relation.ReflTransGen Elsewhere p q) :
    Orderly q ∧ q.run.run.id = p.run.run.id := by
  induction later with
  | refl => exact ⟨hp, rfl⟩
  | tail _ hdeed ih =>
    obtain ⟨hb, hrun⟩ := hdeed.orderly ih.1
    exact ⟨hb, hrun.trans ih.2⟩

section Later

variable {now : Time} (hp : Attends p) (later : Relation.ReflTransGen Elsewhere (p.ends now) q)
include hp later

/-- With the end of a run both copies of a gate are decided, and nobody changes them any more. -/
theorem copies_of_ended (own : p.run.OwnGate id) :
    (q.copies id).Closed ∧ (∀ r, (q.copies id).row = some r → r.status ≠ .pending) ∧
      q.copies id = (p.ends now).copies id := by
  obtain ⟨he, hrune, hends⟩ := steps_of_ends hp.orderly hp.listens now
  obtain ⟨hshift, hclosed⟩ := hends id own
  have hrecorded : ∀ r, ((p.ends now).copies id).row = some r → r.status ≠ .pending :=
    fun r hr => (hshift.attended (hp.attended id own)).recorded hclosed hr
  have hsame := copies_of_later he (by rwa [ownGate_congr hrune]) hclosed hrecorded later
  rw [hsame]
  exact ⟨hclosed, hrecorded, rfl⟩

theorem over_of_ended (hrun : g.runId = p.run.run.id)
    (hg : q.run.gates.get? id = some g ∨ q.store.gate? id = some g) : g.status ≠ .pending := by
  obtain ⟨he, hrune, _⟩ := steps_of_ends hp.orderly hp.listens now
  obtain ⟨hq, hrunq⟩ := orderly_of_later he later
  have own := own_of_runId hq id (hrun.trans (hrunq.trans hrune).symm) hg
  rw [ownGate_congr (hrunq.trans hrune)] at own
  obtain ⟨hheld, hrow, _⟩ := copies_of_ended hp later own
  exact hg.elim (hheld g) (hrow g)

/-- What the run still waited for is rejected. -/
theorem rejected_of_ended (hrun : g.runId = p.run.run.id) (hg : p.run.gates.get? id = some g)
    (waiting : g.status = .pending) :
    q.run.gates.get? id = some (g.closedAt p.run.now) ∧
      ∀ r, p.store.gate? id = some r → r.status = .pending →
        q.store.gate? id = some (g.closedAt p.run.now) := by
  have own := own_of_runId hp.orderly id hrun (Or.inl hg)
  have hcopies := (copies_of_ended hp later own).2.2.trans
    (copies_ends_of_pending hp own now hg waiting)
  obtain ⟨hheld, hrow⟩ := Copies.mk.inj hcopies
  refine ⟨hheld, fun r hr hwaits => hrow.trans ?_⟩
  simp [hr, Copies.noted, hwaits]

/-- What was decided before stays as it was. -/
theorem stays_of_ended (own : p.run.OwnGate id) (hd : g.status ≠ .pending) :
    ((p.copies id).held = some g → (q.copies id).held = some g) ∧
      ((p.copies id).row = some g → (q.copies id).row = some g) := by
  obtain ⟨_, _, hends⟩ := steps_of_ends hp.orderly hp.listens now
  obtain ⟨hshift, _⟩ := hends id own
  rw [(copies_of_ended hp later own).2.2]
  exact ⟨fun h => hshift.held_of_decided h hd, fun h => hshift.row_of_recorded h hd⟩

end Later

/-! ## How a run opens -/

/-- A prepared run begins: it is lent the gate table and the clock, and listens. Since it was
prepared nobody has decided one of its gates in the table; in the store they may have been decided,
but none was opened there. What stands under the identities of its gates is of the run. -/
inductive Opens : Journaled → Prop
  | lent {runId : String} {o' : Orchestrator} {s : Scheduler} {base store : RunStore}
      {table : GateTable Nat} {clock : Time} (prepared : Prepares runId o' s base)
      (keyed : table.Keyed) (filed : store.Filed)
      (owned : ∀ name g, table.get? (gateId runId name) = some g → g.runId = runId)
      (housed : ∀ name r, store.gate? (gateId runId name) = some r → r.runId = runId)
      (undecided : ∀ name g, o'.gates.get? (gateId runId name) = some g → g.status = .pending →
        ∃ g', table.get? (gateId runId name) = some g' ∧ g'.status = .pending)
      (rows : ∀ name r, store.gate? (gateId runId name) = some r → r.status = .pending →
        ∃ r', base.gate? (gateId runId name) = some r' ∧ r'.status = .pending) :
      Opens ⟨{ s with gates := table.subscribe s.self, now := clock }, store⟩

/-- Where no identity of a run has a slash, what stands under the identities of its gates is of the
run by itself. -/
theorem Opens.of_slashless {o' : Orchestrator} {base store : RunStore} {table : GateTable Nat}
    {clock : Time} (prepared : Prepares runId o' s base) (slashless : Slashless runId)
    (held : Plain table.gates) (recorded : Plain store.gates) (nodup : (store.gates.map (·.1)).Nodup)
    (undecided : ∀ name g, o'.gates.get? (gateId runId name) = some g → g.status = .pending →
      ∃ g', table.get? (gateId runId name) = some g' ∧ g'.status = .pending)
    (rows : ∀ name r, store.gate? (gateId runId name) = some r → r.status = .pending →
      ∃ r', base.gate? (gateId runId name) = some r' ∧ r'.status = .pending) :
    Opens ⟨{ s with gates := table.subscribe s.self, now := clock }, store⟩ :=
  .lent prepared (GateTable.keyed_of_plain held) ⟨nodup, fun e he => (recorded e he).1⟩
    (fun _ _ => held.runId_eq slashless) (fun _ _ => recorded.runId_eq slashless) undecided rows

theorem Opens.attends (h : Opens p) : Attends p := by
  cases h with
  | @lent runId o' s base store table clock prepared keyed filed owned housed undecided rows =>
    obtain ⟨rfl, hgates⟩ := prepared.spec
    refine ⟨⟨keyed, filed, ?_⟩, by simp [Listens, GateTable.subscribe], ?_, ?_⟩
    · rintro _ g ⟨name, rfl⟩ hg
      exact owned name g hg
    · rintro _ r ⟨name, rfl⟩ hr
      exact housed name r hr
    · rintro _ ⟨name, rfl⟩ r hr waiting
      obtain ⟨r', hr', hp⟩ := rows name r hr waiting
      obtain ⟨g, hg, hwaiting⟩ := (hgates name).2.attended r' hr' hp
      exact undecided name g hg hwaiting

theorem Prepares.housed {o' : Orchestrator} {base : RunStore} (h : Prepares runId o' s base)
    (name : String) (hr : base.gate? (gateId runId name) = some r) : r.runId = runId := by
  cases h with
  | start found unknown ready stored =>
    obtain ⟨_, _, _, _, hstore⟩ := Orchestrator.prepareStart_ready ready
    obtain ⟨st', hcreate, hst'⟩ := hstore _ found
    cases hst'.symm.trans stored
    rw [RunStore.gate?, RunStore.gates_createRun hcreate] at hr
    cases (unknown name).2.symm.trans hr
  | resume found filed known owned ready stored =>
    obtain ⟨_, _, hstore⟩ := Orchestrator.prepareResume_frame found ready
    cases hstore.symm.trans stored
    rw [RunStore.gate?_reopenRun] at hr
    obtain ⟨old, hold, rfl⟩ := Option.map_eq_some_iff.1 hr
    have hrun := owned name old hold
    unfold reopenedIn
    split <;> exact hrun

theorem Begins.opens (h : Begins p) : Opens p := by
  cases h with
  | lent prepared keyed filed gates rows =>
    refine .lent prepared keyed filed (fun name g hg => ?_) (fun name r hr => ?_)
      (fun name g hg waiting => ⟨g, (gates name).trans hg, waiting⟩)
      fun name r hr waiting => ⟨r, (rows name).symm.trans hr, waiting⟩
    · exact (prepared.spec.2 name).1 g ((gates name).symm.trans hg)
    · exact prepared.housed name ((rows name).symm.trans hr)

/-! ## The law -/

/-- Whatever the run does by itself, a turn or a break, it goes on after it, or it has come to its
end, and there is but one way to end. -/
theorem deeds_of_goes (h : Goes p.run s) (now : Time) :
    Deeds p (p.after now s) ∨ ∃ a, Deeds p a ∧ p.after now s = a.ends now := by
  rcases h with hworks | ⟨u, hworks, rfl⟩
  · exact Or.inl (deeds_of_works hworks now).2
  · obtain ⟨⟨ws, hu⟩, hdeeds⟩ := deeds_of_works hworks now
    obtain ⟨ws', hend, _⟩ := (handles_finish u).writes
    exact Or.inr ⟨_, hdeeds, after_after hu hend now⟩

/-- Let the run open with nothing of another run under the identities of its gates, as is so where no
identity of a run has a slash (`Opens.of_slashless`). Whatever happened in it, and in whatever way
it ends: no gate of it is pending afterwards, neither in the table nor in the store. A gate that it
still waited for is rejected, and that is recorded unless another decision was recorded before. What
was decided at any moment of the run stays as it is, the gates of other runs are as they were before
the end, and whoever decides a gate of the run later is answered with what the gate is, and changes
nothing. -/
theorem no_gate_outlives_its_run (opens : Opens start) (h : Deeds start p) (now : Time)
    (later : Relation.ReflTransGen Elsewhere (p.ends now) q) :
    let runId := start.run.run.id
    (∀ id g, g.runId = runId → q.run.gates.get? id = some g ∨ q.store.gate? id = some g →
      g.status ≠ .pending) ∧
    (∀ id g, g.runId = runId → p.run.gates.get? id = some g → g.status = .pending →
      q.run.gates.get? id = some (g.closedAt p.run.now) ∧
        ∀ r, p.store.gate? id = some r → r.status = .pending →
          q.store.gate? id = some (g.closedAt p.run.now)) ∧
    (∀ a, Deeds start a → Deeds a p → ∀ id g, g.runId = runId → g.status ≠ .pending →
      (a.run.gates.get? id = some g → q.run.gates.get? id = some g) ∧
        (a.store.gate? id = some g → q.store.gate? id = some g)) ∧
    (∀ id g, g.runId ≠ runId →
      ((p.ends now).run.gates.get? id = some g ↔ p.run.gates.get? id = some g) ∧
        ((p.ends now).store.gate? id = some g ↔ p.store.gate? id = some g)) ∧
    ∀ id g, g.runId = runId →
      (q.run.gates.get? id = some g → ∀ d actor comment now, d.outcome? ≠ none →
        q.run.gates.decide id d actor comment now =
          .ok { table := q.run.gates, answer := g.status }) ∧
      (q.store.gate? id = some g → ∀ status actor comment now,
        q.store.decideGate id status actor comment now = .ok (q.store, g.status)) := by
  intro runId
  have hstart := opens.attends
  obtain ⟨hp, hrun, _⟩ := Deeds.attends hstart h
  have hover : ∀ id g, g.runId = runId →
      q.run.gates.get? id = some g ∨ q.store.gate? id = some g → g.status ≠ .pending :=
    fun id g hg => over_of_ended hp later (hg.trans hrun.symm)
  refine ⟨hover, fun id g hg => rejected_of_ended hp later (hg.trans hrun.symm),
    fun a ha hap id g hg hd => ?_,
    fun id g hg => ends_of_foreign hp now id fun he => hg (he.trans hrun),
    fun id g hg => ⟨fun hin d actor comment now hvalid => ?_, fun hin status actor comment now => ?_⟩⟩
  · obtain ⟨hatt, hruna, _⟩ := Deeds.attends hstart ha
    obtain ⟨_, hrunp, hstays⟩ := Deeds.attends hatt hap
    have hown := own_of_runId hatt.orderly id (hg.trans hruna.symm)
    have hpass : p.run.OwnGate id → _ := fun ownp => stays_of_ended hp later ownp hd
    rw [ownGate_congr hrunp] at hpass
    refine ⟨fun hin => ?_, fun hin => ?_⟩
    · have own := hown (Or.inl hin)
      exact (hpass own).1 ((hstays id own g hd).1 hin)
    · have own := hown (Or.inr hin)
      exact (hpass own).2 ((hstays id own g hd).2 hin)
  · have hd := hover id g hg (Or.inl hin)
    obtain ⟨status, hs⟩ := Option.ne_none_iff_exists'.1 hvalid
    simp [GateTable.decide, GateTable.decideAs, hs, hin, hd]
  · have hd := hover id g hg (Or.inr hin)
    have hrow : getPair? id q.store.gates = some g := hin
    simp [RunStore.decideGate, hrow, hd]

/-- The gate of the release as it stands when the run has ended while it waited for it. -/
def shipClosed : Gate where
  name := "prod"
  runId := "r1"
  status := .rejected
  actor := some runFinishedActor
  comment := "run finished"
  requestedAt := 0
  decidedAt := some 0

/-- The run ends while the release waits for its gate. The gate is rejected in both copies, and
whoever approves it in the store later comes too late. -/
theorem the_waiting_release_is_rejected :
    Opens shipBegun ∧ Deeds shipBegun shipAsking ∧
      ((shipAsking.run.gates.get? "r1/prod").map Gate.status = some .pending ∧
        (shipAsking.store.gate? "r1/prod").map Gate.status = some .pending) ∧
      (shipAsking.ends 2).run.gates.get? "r1/prod" = some shipClosed ∧
      (shipAsking.ends 2).store.gate? "r1/prod" = some shipClosed ∧
      (shipAsking.ends 2).store.decideGate "r1/prod" .approved "ann" "" 3 =
        .ok ((shipAsking.ends 2).store, .rejected) := by
  obtain ⟨_, _, _, _, hlater⟩ := no_gate_outlives_its_run begins_shipBegun.opens
    deeds_shipAsking 2 .refl
  have hrow : (shipAsking.ends 2).store.gate? "r1/prod" = some shipClosed := by decide +kernel
  have hrun : shipClosed.runId = shipBegun.run.run.id := by decide +kernel
  exact ⟨begins_shipBegun.opens, deeds_shipAsking, by decide +kernel, by decide +kernel, hrow,
    (hlater "r1/prod" shipClosed hrun).2 hrow .approved "ann" "" 3⟩

end Journaled

end GatedPipeline
