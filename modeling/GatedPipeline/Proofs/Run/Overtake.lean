-- The decision on a gate that is recorded, and the one on which the run has
-- acted. They are the same, unless one in the gate table has overtaken another
-- one that was recorded before: then they never are.
import GatedPipeline.Host
import GatedPipeline.Proofs.Run.Journaled
import GatedPipeline.Proofs.Run.Resume
namespace GatedPipeline

/-! ## The gates of a run that is prepared -/

namespace Orchestrator

variable {o o' : Orchestrator} {w : Workflow} {s : Scheduler} {group runId : String} {key : Nat}
  {now : Time} {source : Option VersionSource} {st : RunStore}

theorem get?_attachPolicies (o : Orchestrator) (w : Workflow) (id : String) :
    (o.attachPolicies w).gates.get? id = o.gates.get? id := by
  unfold attachPolicies
  generalize w.approvals = as
  induction as generalizing o with
  | nil => rfl
  | cons a as ih =>
    rw [List.foldl_cons, ih]
    dsimp only
    split <;> rfl

/-- A recorded gate as it is put back into the table. -/
def restoredGate (now : Time) (g : Gate) : Gate :=
  if g.actor = some runFinishedActor then { name := g.name, runId := g.runId, requestedAt := now }
  else g

theorem restoreGates_eq (t : GateTable Nat) (gates : List Gate) (now : Time) :
    restoreGates t gates now = { t with
      gates := (gates.map fun g => (g.id, restoredGate now g)).foldl
        (fun own (k, g) => putPair k g own) t.gates } := by
  induction gates generalizing t with
  | nil => rfl
  | cons g gates ih =>
    have hone : (if g.actor = some runFinishedActor then t.reopen g now else t.restore g) =
        { t with gates := putPair g.id (restoredGate now g) t.gates } := by
      unfold restoredGate
      split <;> rfl
    have hstep : restoreGates t (g :: gates) now = restoreGates
        (if g.actor = some runFinishedActor then t.reopen g now else t.restore g) gates now := rfl
    rw [hstep, hone, ih]
    rfl

/-- The gates of a recorded run stand in the table again, and nothing else has changed there. -/
theorem get?_restoreGates (filed : st.Filed) (t : GateTable Nat) (runId : String) (now : Time)
    (id : String) :
    (restoreGates t ((st.gates.map (·.2)).filter (·.runId = runId)) now).get? id =
      (((st.gate? id).filter (·.runId = runId)).map (restoredGate now)).or (t.get? id) := by
  have hkeys : (((st.gates.map (·.2)).filter (·.runId = runId)).map
      fun g => (g.id, restoredGate now g)).map (·.1) =
        ((st.gates.map (·.2)).filter (·.runId = runId)).map Gate.id := by
    rw [List.map_map]
    rfl
  have hall : (st.gates.map (·.2)).map Gate.id = st.gates.map (·.1) := by
    rw [List.map_map]
    exact List.map_congr_left fun p hp => (filed.keyed p hp).symm
  have hnodup : ((((st.gates.map (·.2)).filter (·.runId = runId)).map
      fun g => (g.id, restoredGate now g)).map (·.1)).Nodup := by
    rw [hkeys]
    exact (hall ▸ filed.nodup).sublist (List.filter_sublist.map Gate.id)
  rw [restoreGates_eq, GateTable.get?, getPair?_foldl_putPair hnodup]
  congr 1
  rcases hrow : (st.gate? id).filter (·.runId = runId) with _ | g <;> rw [hrow]
  · refine getPair?_eq_none_iff.2 fun hm => ?_
    rw [hkeys] at hm
    obtain ⟨g, hg, rfl⟩ := List.mem_map.1 hm
    obtain ⟨hg, hrun⟩ := List.mem_filter.1 hg
    obtain ⟨p, hp, rfl⟩ := List.mem_map.1 hg
    have hget : st.gate? p.2.id = some p.2 := by
      rw [RunStore.gate?, ← filed.keyed p hp]
      exact getPair?_of_mem filed.nodup hp
    rw [hget, Option.filter_some, if_pos hrun] at hrow
    cases hrow
  · obtain ⟨hget, hrun⟩ := Option.filter_eq_some_iff.1 hrow
    have hid := filed.id_of_gate? hget
    refine getPair?_of_mem hnodup (List.mem_map.2 ⟨g, List.mem_filter.2 ⟨?_, hrun⟩, by rw [hid]⟩)
    exact List.mem_map.2 ⟨_, mem_of_getPair? hget, rfl⟩

end Orchestrator

namespace Journaled

open Scheduler

variable {start p q a b : Journaled} {runId id : String} {o' : Orchestrator} {s : Scheduler}

/-! ## How a run begins -/

/-- A run is prepared: a new one, of which no gate is known, or one that is recorded with all its
gates. -/
inductive Prepares (runId : String) (o' : Orchestrator) (s : Scheduler) (base : RunStore) : Prop
  | start {o : Orchestrator} {w : Workflow} {t : Trigger} {source : Option VersionSource}
      {key : Nat} {now : Time} {group : String} {st : RunStore} (found : o.store = some st)
      (unknown : ∀ name, o.gates.get? (gateId runId name) = none ∧
        st.gate? (gateId runId name) = none)
      (ready : o.prepareStart w t source runId key now = (o', .ready s group))
      (stored : o'.store = some base)
  | resume {o : Orchestrator} {w : Workflow} {source : Option VersionSource} {key : Nat}
      {now : Time} {group : String} {st : RunStore} (found : o.store = some st) (filed : st.Filed)
      (known : ∀ name, st.gate? (gateId runId name) = none →
        o.gates.get? (gateId runId name) = none)
      (owned : ∀ name r, st.gate? (gateId runId name) = some r → r.runId = runId)
      (ready : o.prepareResume w source runId key now = (o', .ready s group))
      (stored : o'.store = some base)

/-- A prepared run begins: it is lent the gate table and the clock, and listens. Nobody has touched
its gates since it was prepared. -/
inductive Begins : Journaled → Prop
  | lent {runId : String} {o' : Orchestrator} {s : Scheduler} {base store : RunStore}
      {table : GateTable Nat} {clock : Time} (prepared : Prepares runId o' s base)
      (keyed : table.Keyed) (filed : store.Filed)
      (gates : ∀ name, table.get? (gateId runId name) = o'.gates.get? (gateId runId name))
      (rows : ∀ name, store.gate? (gateId runId name) = base.gate? (gateId runId name)) :
      Begins ⟨{ s with gates := table.subscribe s.self, now := clock }, store⟩

theorem Prepares.spec {base : RunStore} (h : Prepares runId o' s base) :
    s.run.id = runId ∧ ∀ name,
      (∀ g, o'.gates.get? (gateId runId name) = some g → g.runId = runId) ∧
      Copies.Agree ⟨o'.gates.get? (gateId runId name), base.gate? (gateId runId name)⟩ := by
  cases h with
  | start found unknown ready stored =>
    obtain ⟨_, _, hs, hgates, hstore⟩ := Orchestrator.prepareStart_ready ready
    obtain ⟨st', hcreate, hst'⟩ := hstore _ found
    cases hst'.symm.trans stored
    refine ⟨by rw [hs]; rfl, fun name => ?_⟩
    obtain ⟨hheld, hrow⟩ := unknown name
    rw [hgates, Orchestrator.get?_attachPolicies, hheld,
      RunStore.gate?, RunStore.gates_createRun hcreate]
    exact ⟨by simp, congrArg (Option.map Gate.verdict) hrow⟩
  | @resume o _ _ _ now _ st found filed known owned ready stored =>
    obtain ⟨hrun, _, hstore⟩ := Orchestrator.prepareResume_frame found ready
    cases hstore.symm.trans stored
    refine ⟨hrun, fun name => ?_⟩
    obtain ⟨_, _, _, _, _, hgates, _⟩ := Orchestrator.prepareResume_eq found ready
    rw [hgates, Orchestrator.get?_restoreGates filed,
      Orchestrator.get?_attachPolicies, RunStore.gate?_reopenRun]
    rcases hrow : st.gate? (gateId runId name) with _ | r
    · rw [known name hrow]
      exact ⟨by simp, rfl⟩
    · have hr := owned name r hrow
      rw [Option.filter_some, if_pos (decide_eq_true hr)]
      refine ⟨fun g hg => ?_, congrArg some ?_⟩
      · cases hg
        unfold Orchestrator.restoredGate
        split <;> exact hr
      · by_cases hclosed : r.actor = some runFinishedActor
        · simp [reopenedIn, Orchestrator.restoredGate, hr, hclosed, RunStore.reopenedGate,
            Gate.verdict]
        · simp [reopenedIn, Orchestrator.restoredGate, hclosed]

/-- When a run begins, its gates are where they belong, and their copies agree. -/
theorem Begins.spec (h : Begins p) :
    Orderly p ∧ Listens p ∧ ∀ id, p.run.OwnGate id → (p.copies id).Agree := by
  cases h with
  | @lent runId o' s base store table clock prepared keyed filed gates rows =>
    obtain ⟨rfl, hgates⟩ := prepared.spec
    refine ⟨⟨keyed, filed, ?_⟩, by simp [Listens, GateTable.subscribe], ?_⟩
    · rintro _ g ⟨name, rfl⟩ hg
      exact (hgates name).1 g ((gates name).symm.trans hg)
    · rintro _ ⟨name, rfl⟩
      have hheld : (Journaled.mk { s with gates := table.subscribe s.self, now := clock }
          store).copies (gateId s.run.id name) = ⟨o'.gates.get? (gateId s.run.id name),
            base.gate? (gateId s.run.id name)⟩ := by
        rw [copies, ← gates name, ← rows name]
        rfl
      rw [hheld]
      exact (hgates name).2

/-! ## Overtaking -/

/-- The gate is decided in the table, although another decision on it is recorded. -/
def Overtakes (id : String) (p q : Journaled) : Prop := (p.copies id).Ahead ∧ (q.copies id).Apart

/-- No poll overtakes a decision that someone has put a name to. -/
theorem Polls.nameless (hp : Orderly p) (hl : Listens p) (own : p.run.OwnGate id) (h : Polls p q)
    (ho : Overtakes id p q) :
    ∃ r, p.store.gate? id = some r ∧ r.actor.filter (· ≠ "") = none := by
  have hshift := ((Elsewhere.poll h).steps hp hl).shift id own
  obtain ⟨⟨g₀, r, hcopies, waiting, recorded⟩, g, r', hcopies', settled, _, hne⟩ := ho
  obtain ⟨hheld, hrow⟩ := Copies.mk.inj hcopies
  rw [hcopies, hcopies'] at hshift
  obtain rfl : r' = r := Option.some.inj (hshift.row_of_recorded rfl recorded)
  refine ⟨r', hrow, ?_⟩
  cases h with
  | @pass row change hrecorded _ decided now =>
    obtain ⟨hat, _, _⟩ := hp.filed.gate?_of_decided hrecorded
    obtain ⟨status, hs, hd⟩ := GateTable.decideAs_of_decide _ decided
    have hstatus : status = row.status := by
      rcases hrow : row.status with _ | _ | _ <;> rw [hrow] at hs <;> cases hs <;> rfl
    have hnow : change.table.get? id = some g := by
      have hheld' := (Copies.mk.inj hcopies').1
      rwa [after, (handles_told p.run change.table change.notices).gates] at hheld'
    rcases GateTable.decideAs_cases hd with ⟨ht, _⟩ | ⟨g₁, _, _, ht, _⟩
    · rw [ht, hheld] at hnow
      cases hnow
      exact absurd waiting settled
    · rw [ht, GateTable.get?, getPair?_putPair] at hnow
      split at hnow
      · rename_i hid
        subst hid
        obtain rfl := Option.some.inj (hat.symm.trans hrow)
        cases hnow
        rcases hactor : row.actor.filter (· ≠ "") with _ | actor
        · rfl
        · refine absurd ?_ hne
          rw [Gate.verdict, Gate.verdict, hactor, (Option.filter_eq_some_iff.1 hactor).1, ← hstatus]
          rfl
      · rw [show getPair? id p.run.gates.gates = some g₀ from hheld] at hnow
        cases hnow
        exact absurd waiting settled

/-! ## The law -/

/-- On the way from the one moment to the other a decision on the gate was overtaken, and by no poll
that was sure whom the decision is from. -/
def Overtaken (id : String) (p q : Journaled) : Prop :=
  ∃ a b, Deeds p a ∧ Deed a b ∧ Deeds b q ∧ Overtakes id a b ∧
    (Polls a b → ∃ r, a.store.gate? id = some r ∧ r.actor.filter (· ≠ "") = none)

/-- A run goes on from one moment to another. -/
theorem Deeds.spec (hp : Orderly p) (hl : Listens p) (h : Deeds p q) :
    Orderly q ∧ Listens q ∧ q.run.run.id = p.run.run.id ∧
      ∀ id, p.run.OwnGate id → (p.copies id).Apart → (q.copies id).Apart := by
  induction h with
  | refl => exact ⟨hp, hl, rfl, fun _ _ h => h⟩
  | @tail a b _ hdeed ih =>
    obtain ⟨ha, hla, hrun, hapart⟩ := ih
    have hsteps := hdeed.steps ha hla
    refine ⟨hsteps.orderly, hsteps.listens, hsteps.runId.trans hrun, fun id own h => ?_⟩
    refine (hsteps.shift id ?_).apart (hapart id own h)
    rwa [ownGate_congr hrun]

/-- While no decision on a gate is overtaken, its copies agree, but for a decision that the run has
not seen. -/
theorem Deeds.agree (hp : Orderly p) (hl : Listens p) (own : p.run.OwnGate id)
    (ha : (p.copies id).Agree) (h : Deeds p q) (hnone : ¬ Overtaken id p q) :
    (q.copies id).Agree ∨ (q.copies id).Ahead := by
  induction h with
  | refl => exact Or.inl ha
  | @tail a b hdeeds hdeed ih =>
    obtain ⟨hoa, hla, hrun, _⟩ := Deeds.spec hp hl hdeeds
    have howna : a.run.OwnGate id := by rwa [ownGate_congr hrun]
    have hbefore := ih (by
      rintro ⟨c, d, hc, hd, hrest, hover, hpoll⟩
      exact hnone ⟨c, d, hc, hd, hrest.tail hdeed, hover, hpoll⟩)
    rcases ((hdeed.steps hoa hla).shift id howna).next hbefore with h | h | hover
    · exact Or.inl h
    · exact Or.inr h
    · exact absurd ⟨a, b, hdeeds, hdeed, .refl, hover, fun hpoll =>
        hpoll.nameless hoa hla howna hover⟩ hnone

/-- Once a decision on a gate was overtaken, its copies have come apart. -/
theorem Overtaken.apart (hp : Orderly p) (hl : Listens p) (own : p.run.OwnGate id)
    (h : Overtaken id p q) : (q.copies id).Apart := by
  obtain ⟨a, b, ha, hab, hb, ⟨_, hover⟩, _⟩ := h
  obtain ⟨hoa, hla, hruna, _⟩ := Deeds.spec hp hl ha
  have hsteps := hab.steps hoa hla
  obtain ⟨_, _, _, hapart⟩ := Deeds.spec hsteps.orderly hsteps.listens hb
  refine hapart id ?_ hover
  rwa [ownGate_congr (hsteps.runId.trans hruna)]

/-- After the end of a run nobody changes what both copies of a gate have decided. -/
theorem copies_of_later (hp : Orderly p) (own : p.run.OwnGate id) (closed : (p.copies id).Closed)
    (recorded : ∀ r, (p.copies id).row = some r → r.status ≠ .pending)
    (h : Relation.ReflTransGen Elsewhere p q) : q.copies id = p.copies id := by
  have hall : Orderly q ∧ q.run.run.id = p.run.run.id ∧ q.copies id = p.copies id := by
    induction h with
    | refl => exact ⟨hp, rfl, rfl⟩
    | @tail a b _ hdeed ih =>
      obtain ⟨ha, hrun, hcopies⟩ := ih
      obtain ⟨hb, hrunb⟩ := hdeed.orderly ha
      have owna : a.run.OwnGate id := by rwa [ownGate_congr hrun]
      refine ⟨hb, hrunb.trans hrun, (hdeed.still ha owna ?_ ?_).trans hcopies⟩
      · rw [hcopies]
        exact closed
      · rw [hcopies]
        exact recorded
  exact hall.2.2

/-- When a run is over, each of its gates is in both copies or in none, and decided in both. The two
decisions are the same, with the same actor, just if no decision on the gate was overtaken: if none
was made in the table while another one was recorded already. That holds ever after. -/
theorem the_copies_of_a_gate_agree_unless_a_decision_was_overtaken (begins : Begins start)
    (h : Deeds start p) (now : Time) (later : Relation.ReflTransGen Elsewhere (p.ends now) q)
    (name : String) :
    let id := gateId start.run.run.id name
    (q.run.gates.get? id).isSome = (q.store.gate? id).isSome ∧
      (∀ g, q.run.gates.get? id = some g → g.status ≠ .pending) ∧
      (∀ r, q.store.gate? id = some r → r.status ≠ .pending) ∧
      ((q.store.gate? id).map Gate.verdict = (q.run.gates.get? id).map Gate.verdict ↔
        ¬ (Overtaken id start p ∨ Overtakes id p (p.ends now))) := by
  intro id
  obtain ⟨hs, hls, hagree⟩ := begins.spec
  have own : start.run.OwnGate id := ⟨name, rfl⟩
  obtain ⟨hp, hl, hrun, _⟩ := Deeds.spec hs hls h
  have ownp : p.run.OwnGate id := ⟨name, by rw [hrun]⟩
  obtain ⟨he, hrune, hends⟩ := steps_of_ends hp hl now
  have owne : (p.ends now).run.OwnGate id := ⟨name, by rw [hrune, hrun]⟩
  obtain ⟨hshift, hclosed⟩ := hends id ownp
  have hover : Overtaken id start p ∨ Overtakes id p (p.ends now) →
      ((p.ends now).copies id).Apart :=
    fun ho => ho.elim (fun ho => hshift.apart (ho.apart hs hls own)) And.right
  have hnone : ¬ (Overtaken id start p ∨ Overtakes id p (p.ends now)) →
      ((p.ends now).copies id).Agree := by
    intro hno
    have hbefore := Deeds.agree hs hls own (hagree id own) h fun ho => hno (Or.inl ho)
    rcases hshift.next hbefore with h | h | h
    · exact h
    · exact absurd hclosed h.not_closed
    · exact absurd (Or.inr h) hno
  have hboth := Copies.both_of_closed ((Classical.em _).symm.imp hnone hover) hclosed
  have hlater : q.copies id = (p.ends now).copies id :=
    copies_of_later he owne hclosed hboth.2 later
  rw [← hlater] at hover hnone hclosed hboth
  exact ⟨hboth.1, hclosed, hboth.2, fun ha ho => (hover ho).not_agree ha, hnone⟩

/-! ## Work that makes up a turn -/

/-- What is written at two moments is in the store as if it were written at the later one. -/
theorem after_after {u t : Scheduler} {ws ws' : List JournalWrite}
    (hu : u.writes = p.run.writes ++ ws) (ht : t.writes = u.writes ++ ws') (now : Time) :
    p.after now t = (p.after now u).after now t := by
  simp only [after, ht, hu, List.drop_left, List.append_assoc, List.foldl_append]
  rw [← List.append_assoc, List.drop_left]

/-- What the run does in one go is made of single deeds. -/
theorem deeds_of_works (h : Works p.run s) (now : Time) :
    (∃ ws, s.writes = p.run.writes ++ ws) ∧ Deeds p (p.after now s) := by
  induction h with
  | refl =>
    refine ⟨⟨[], (List.append_nil _).symm⟩, ?_⟩
    have hsame : p.after now p.run = p := by
      rw [after, List.drop_length]
      rfl
    rw [hsame]
    exact .refl
  | @tail u t _ hwork ih =>
    obtain ⟨⟨ws, hu⟩, hdeeds⟩ := ih
    obtain ⟨ws', ht⟩ := hwork.gateWork.writes
    refine ⟨⟨ws ++ ws', by rw [ht, hu, List.append_assoc]⟩, hdeeds.tail ?_⟩
    rw [after_after hu ht]
    exact .work hwork now

/-! ## A release that is approved in the store -/

/-- The run of a release begins. -/
def shipBegun : Journaled :=
  match shipHost.prepareStart Scheduler.shipWorkflow {} (some (.fixed "1.2.0" none)) "r1" 0 0 with
  | (o, .ready s _) => ⟨{ s with gates := o.gates.subscribe s.self, now := 0 }, o.store.getD {}⟩
  | _ => ⟨default, {}⟩

/-- The image is built, and the release waits for its gate. -/
def shipAsking : Journaled :=
  shipBegun.after 0 (shipBegun.run.proceed.endBody "build" .default).2.turn

/-- The gate is approved in the store. -/
def shipApproved : Journaled :=
  match shipAsking.store.decideGate "r1/prod" .approved "ann" "" 1 with
  | .ok (store, _) => { shipAsking with store }
  | .error _ => shipAsking

/-- The decision is passed on to the gate table. -/
def shipPolled : Journaled :=
  match shipApproved.store.decidedGates shipApproved.run.run.id with
  | [g] =>
    match shipApproved.run.gates.decide g.id (.status g.status)
      ((g.actor.filter (· ≠ "")).getD "store") g.comment shipApproved.run.now with
    | .ok change => shipApproved.after 1
        ({ shipApproved.run with gates := change.table }.deliver change.notices)
    | .error _ => shipApproved
  | _ => shipApproved

theorem begins_shipBegun : Begins shipBegun := by
  obtain ⟨o, s, group, base, ready, hbase⟩ := prepareStart_shipHost
  obtain ⟨_, _, _, htable, hstore⟩ := Orchestrator.prepareStart_ready ready
  obtain ⟨base', hcreate, hbase'⟩ := hstore {} rfl
  cases hbase.symm.trans hbase'
  have hgates : base.gates = [] := RunStore.gates_createRun hcreate
  unfold shipBegun
  rw [ready]
  dsimp only
  rw [hbase]
  refine .lent (.start (o := shipHost) rfl (fun _ => ⟨rfl, rfl⟩) ready hbase) (fun id g hg => ?_)
    ⟨by rw [Option.getD_some, hgates]; exact List.nodup_nil,
      by rw [Option.getD_some, hgates]; simp⟩ (fun _ => rfl) fun _ => rfl
  rw [htable, Orchestrator.get?_attachPolicies] at hg
  cases hg

theorem deeds_shipAsking : Deeds shipBegun shipAsking :=
  (deeds_of_works (((goes_proceed _).works (by decide +kernel)).trans
    ((works_endBody _ _ _).trans ((goes_turn _).works (by decide +kernel)))) 0).2

theorem deeds_shipPolled : Deeds shipBegun shipPolled := by
  have happroved : Deeds shipAsking shipApproved := by
    unfold shipApproved
    split
    · rename_i store _ h
      exact (Elsewhere.record (by simp) h).deeds
    · exact .refl
  refine (deeds_shipAsking.trans happroved).trans ?_
  have hwaiting : ∀ g ∈ shipApproved.store.decidedGates shipApproved.run.run.id,
      (shipApproved.run.gates.pending (some shipApproved.run.run.id)).any (·.id = g.id) = true := by
    decide +kernel
  unfold shipPolled
  split
  · rename_i g hg
    have hm : g ∈ shipApproved.store.decidedGates shipApproved.run.run.id := by simp [hg]
    split
    · rename_i change h
      exact (Elsewhere.poll (.pass hm (hwaiting g hm) h 1)).deeds
    · exact .refl
  · exact .refl

/-- The approval is brought over in time: the run goes by it, and it stays the recorded one. -/
theorem the_approval_in_the_store_was_not_overtaken :
    Begins shipBegun ∧ Deeds shipBegun shipPolled ∧
      ((shipPolled.ends 2).store.gate? "r1/prod").map Gate.verdict = some (.approved, some "ann") ∧
      ((shipPolled.ends 2).run.gates.get? "r1/prod").map Gate.verdict =
        some (.approved, some "ann") ∧
      ¬ (Overtaken "r1/prod" shipBegun shipPolled ∨
        Overtakes "r1/prod" shipPolled (shipPolled.ends 2)) := by
  have hlaw := the_copies_of_a_gate_agree_unless_a_decision_was_overtaken begins_shipBegun
    deeds_shipPolled 2 .refl "prod"
  have hid : gateId shipBegun.run.run.id "prod" = "r1/prod" := by decide +kernel
  rw [hid] at hlaw
  have hrow : ((shipPolled.ends 2).store.gate? "r1/prod").map Gate.verdict =
      some (.approved, some "ann") := by decide +kernel
  have hheld : ((shipPolled.ends 2).run.gates.get? "r1/prod").map Gate.verdict =
      some (.approved, some "ann") := by decide +kernel
  exact ⟨begins_shipBegun, deeds_shipPolled, hrow, hheld,
    hlaw.2.2.2.1 (hrow.trans hheld.symm)⟩

end Journaled

/-! ## An approval that is overtaken -/

namespace Host

/-- A host with a store runs a deployment, which waits for its gate. -/
def guardedWaiting : Host :=
  let host : Host := { orchestrator := { gates := { listeners := [0] }, store := some {} } }
  let deploy : Workflow :=
    { name := "ci", stages := [{ name := "deploy", environment := some "production" }] }
  (host.launch "r1" (.start deploy {} none)).settle

/-- The gate is approved in the store. Before the next poll it is rejected in the gate table, and the
run ends. -/
def guardedRejected : Host :=
  match (guardedWaiting.orchestrator.store.getD {}).decideGate "r1/production" .approved "alice" ""
    guardedWaiting.now with
  | .ok (store, _) =>
    let approved := { guardedWaiting with
      orchestrator := { guardedWaiting.orchestrator with store := some store } }
    (approved.decide "r1/production" (.words "reject") "bob" "").2.settle
  | .error _ => guardedWaiting

/-- The run is over, and has acted on the rejection; the approval is recorded. -/
theorem a_rejection_overtakes_the_recorded_approval :
    (guardedRejected.session? 1).map Session.isOver = some true ∧
      (guardedRejected.orchestrator.gates.get? "r1/production").map Gate.verdict =
        some (.rejected, some "bob") ∧
      (guardedRejected.orchestrator.store.bind (·.gate? "r1/production")).map Gate.verdict =
        some (.approved, some "alice") := by
  decide +kernel

end Host

end GatedPipeline
