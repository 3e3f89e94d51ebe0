-- The gates of a run that has a store. The run acts on the gate table and
-- writes down what it does, others decide gates in the table or in the store,
-- and a poll passes on what was decided in the store. Each of these deeds shifts
-- the two copies of a gate in one of a few ways.
import GatedPipeline.Proofs.Run.Gates
namespace GatedPipeline

/-- A run, and the store that has its journal. -/
structure Journaled where
  run : Scheduler
  store : RunStore

namespace Journaled

open Scheduler

variable {p q a b : Journaled} {s : Scheduler} {table : GateTable Nat}
  {notices : List (Nat × Gate)} {gs : List Gate} {id : String} {now : Time}

/-! ## What happens -/

/-- The run has come to a later moment, and what it has written since is in the store. -/
def after (p : Journaled) (now : Time) (s : Scheduler) : Journaled where
  run := s
  store := (s.writes.drop p.run.writes.length).foldl (fun store w => store.apply now w) p.store

/-- The run has ended. -/
def ends (p : Journaled) (now : Time) : Journaled := p.after now p.run.finish

/-- A poll of the store passes a recorded decision to the gate table, if the run waits for the
gate. -/
inductive Polls (p : Journaled) : Journaled → Prop
  | pass {g : Gate} {change : GateChange Nat GateStatus}
      (recorded : g ∈ p.store.decidedGates p.run.run.id)
      (waiting : (p.run.gates.pending (some p.run.run.id)).any (·.id = g.id) = true)
      (decided : p.run.gates.decide g.id (.status g.status)
        ((g.actor.filter (· ≠ "")).getD "store") g.comment p.run.now = .ok change) (now : Time) :
      Polls p (p.after now ({ p.run with gates := change.table }.deliver change.notices))

/-- What others do. A decision is told to the run; of what it does not concern only that is said
which the run relies on. -/
inductive Elsewhere (p : Journaled) : Journaled → Prop
  /-- A gate is decided in the table, on someone's request. -/
  | decide {id actor comment : String} {d : Decision} {change : GateChange Nat GateStatus}
      (decided : p.run.gates.decide id d actor comment p.run.now = .ok change) (now : Time) :
      Elsewhere p (p.after now ({ p.run with gates := change.table }.deliver change.notices))
  | poll {q : Journaled} (h : Polls p q) : Elsewhere p q
  /-- A gate is decided in the store. -/
  | record {id actor comment : String} {status answer : GateStatus} {now : Time}
      {store : RunStore} (settled : status ≠ .pending)
      (decided : p.store.decideGate id status actor comment now = .ok (store, answer)) :
      Elsewhere p { p with store }
  /-- Something happens at the table to gates of other runs. -/
  | table {table : GateTable Nat} {notices : List (Nat × Gate)} (keyed : table.Keyed)
      (listeners : p.run.self ∈ p.run.gates.listeners → p.run.self ∈ table.listeners)
      (same : ∀ id, p.run.OwnGate id → table.get? id = p.run.gates.get? id)
      (foreign : ∀ n ∈ notices, n.2.runId ≠ p.run.run.id) (now : Time) :
      Elsewhere p (p.after now ({ p.run with gates := table }.deliver notices))
  /-- Something is recorded of other runs, or of other things than gates. -/
  | rows {store : RunStore} (filed : store.Filed)
      (same : ∀ id, p.run.OwnGate id → store.gate? id = p.store.gate? id) :
      Elsewhere p { p with store }

/-- Something that the run or someone else does, while the run goes on. -/
inductive Deed (p : Journaled) : Journaled → Prop
  | work {s : Scheduler} (h : Work p.run s) (now : Time) : Deed p (p.after now s)
  | elsewhere {q : Journaled} (h : Elsewhere p q) : Deed p q

def Deeds : Journaled → Journaled → Prop := Relation.ReflTransGen Deed

theorem Deeds.trans (h : Deeds p q) (h' : Deeds q a) : Deeds p a := Relation.ReflTransGen.trans h h'

theorem Elsewhere.deeds (h : Elsewhere p q) : Deeds p q := .single (.elsewhere h)

/-! ## The copies of a gate -/

/-- The two copies of a gate. -/
def copies (p : Journaled) (id : String) : Copies := ⟨p.run.gates.get? id, p.store.gate? id⟩

/-- The gates of the run are where they belong. -/
structure Orderly (p : Journaled) : Prop where
  keyed : p.run.gates.Keyed
  filed : p.store.Filed
  owned : ∀ id g, p.run.OwnGate id → p.run.gates.get? id = some g → g.runId = p.run.run.id

/-- The run hears of decisions in the table. -/
def Listens (p : Journaled) : Prop := p.run.self ∈ p.run.gates.listeners

/-- The row of a gate, if of all that was written down at most one gate stands under its
identity. -/
theorem gate?_after (h : Handles p.run s table gs) {g : Gate}
    (hone : ∀ g' ∈ gs, g'.id = id → g' = g) (now : Time) :
    (p.after now s).store.gate? id =
      if g ∈ gs ∧ g.id = id then Copies.noted g (p.store.gate? id) else p.store.gate? id := by
  obtain ⟨ws, hw, rfl⟩ := h.writes
  rw [after, hw, List.drop_left]
  exact RunStore.gate?_foldl hone

theorem filed_after (hp : Orderly p) (now : Time) (s : Scheduler) : (p.after now s).store.Filed :=
  hp.filed.foldl now _

/-- Nothing of a gate is told: its copies stay as they are. -/
theorem copies_of_silent (h : Handles p.run s table gs)
    (same : table.get? id = p.run.gates.get? id) (silent : ∀ g ∈ gs, g.id ≠ id) (now : Time) :
    (p.after now s).copies id = p.copies id := by
  have hrow := gate?_after (g := default) h (fun g hg hid => absurd hid (silent g hg)) now
  rw [if_neg fun hg => silent _ hg.1 hg.2] at hrow
  have hheld : (p.after now s).run.gates.get? id = p.run.gates.get? id := by
    rw [after, h.gates, same]
  rw [copies, copies, hrow, hheld]

theorem silent_of_notices (silent : ∀ n ∈ notices, n.2.id ≠ id) :
    ∀ g ∈ p.run.heard notices, g.id ≠ id := fun _ hg => silent _ (mem_heard.1 hg).1

/-! ## Each deed shifts the copies -/

section Shift

variable (hp : Orderly p) (own : p.run.OwnGate id)
include hp own

/-- What is decided in the table is written down at once. -/
theorem shift_of_told (hl : Listens p) (h : Handles p.run s table (p.run.heard notices))
    (told : GateTable.Told p.run.gates table notices id) (now : Time) :
    Copies.Shift (p.copies id) ((p.after now s).copies id) := by
  cases told with
  | still same silent =>
    rw [copies_of_silent h same (silent_of_notices silent)]
    exact .still _
  | @decided g g' was waiting is settled runId stands told all =>
    have hrow := gate?_after (g := g') h (fun g hg hid => told _ (mem_heard.1 hg).1 hid) now
    have hheard : g' ∈ p.run.heard notices :=
      mem_heard.2 ⟨all _ hl, runId.trans (hp.owned id g own was)⟩
    rw [if_pos ⟨hheard, stands⟩] at hrow
    have hheld : (p.after now s).run.gates.get? id = some g' := by rw [after, h.gates, is]
    rw [copies, copies, hrow, hheld, was]
    exact .decided _ waiting settled

/-- What is asked for is written down at once. -/
theorem shift_of_request {name : String} {trigger : Option Trigger}
    {release : Option (List (String × String))} {clock : Time}
    (h : Handles p.run s (p.run.gates.request name p.run.run.id trigger release clock).table
      (p.run.heard (p.run.gates.request name p.run.run.id trigger release clock).notices ++
        [(p.run.gates.request name p.run.run.id trigger release clock).answer])) (now : Time) :
    Copies.Shift (p.copies id) ((p.after now s).copies id) := by
  obtain ⟨hself, hother, _, hcase⟩ :=
    GateTable.request_spec p.run.gates name p.run.run.id trigger release clock
  have hstands := GateTable.id_request name p.run.run.id trigger release clock hp.keyed
  generalize p.run.gates.request name p.run.run.id trigger release clock = c at *
  have hone : ∀ g ∈ p.run.heard c.notices ++ [c.answer], g = c.answer := by
    intro g hg
    rcases List.mem_append.1 hg with hg | hg
    · rcases hcase with ⟨_, _, hnone⟩ | ⟨_, _, _, hnew⟩
      · rw [hnone] at hg
        cases hg
      · exact hnew _ (mem_heard.1 hg).1
    · exact List.mem_singleton.1 hg
  by_cases hid : id = gateId p.run.run.id name
  · subst hid
    have hrow : (p.after now s).store.gate? (gateId p.run.run.id name) =
        Copies.noted c.answer (p.store.gate? (gateId p.run.run.id name)) :=
      (gate?_after h (fun g hg _ => hone g hg) now).trans (if_pos ⟨by simp, hstands⟩)
    have hheld : (p.after now s).run.gates.get? (gateId p.run.run.id name) = some c.answer := by
      rw [after, h.gates, hself]
    rw [copies, copies, hrow, hheld]
    rcases hcase with ⟨hold, _⟩ | ⟨hnone, _⟩
    · rw [hold]
      exact .noted _ _
    · rw [hnone]
      exact .asked _ _
  · rw [copies_of_silent h (hother id hid) fun g hg he => hid ?_]
    · exact .still _
    · rw [← he, hone g hg, hstands]

end Shift

/-! ## What every deed keeps -/

theorem orderly_after (hp : Orderly p) (h : Handles p.run s table gs) (hk : table.Keyed)
    (owned : ∀ id g, p.run.OwnGate id → table.get? id = some g → g.runId = p.run.run.id)
    (now : Time) : Orderly (p.after now s) where
  keyed := by rwa [after, h.gates]
  filed := filed_after hp now s
  owned := by
    intro id g own hg
    rw [after, ownGate_congr h.runId] at own
    rw [after, h.gates] at hg
    rw [after, h.runId]
    exact owned id g own hg

theorem listens_after (hl : Listens p) (h : Handles p.run s table gs)
    (listeners : table.listeners = p.run.gates.listeners) (now : Time) :
    Listens (p.after now s) := by
  rw [Listens, after, h.self, h.gates, listeners]
  exact hl

theorem owned_of_told (hp : Orderly p)
    (told : ∀ id, GateTable.Told p.run.gates table notices id) (id : String) (g : Gate)
    (own : p.run.OwnGate id) (hg : table.get? id = some g) : g.runId = p.run.run.id := by
  cases told id with
  | still same => exact hp.owned id g own (same.symm.trans hg)
  | decided was _ is _ runId =>
    cases is.symm.trans hg
    exact runId.trans (hp.owned id _ own was)

section Decision

variable {j actor comment : String} {d : Decision} {clock : Time}
  {change : GateChange Nat GateStatus}

/-- A decision that is asked for is told, to all who listen. -/
theorem told_of_decide (hp : Orderly p)
    (decided : p.run.gates.decide j d actor comment clock = .ok change) :
    change.table.Keyed ∧ change.table.listeners = p.run.gates.listeners ∧
      ∀ id, GateTable.Told p.run.gates change.table change.notices id := by
  obtain ⟨status, hs, hd⟩ := GateTable.decideAs_of_decide _ decided
  exact ⟨GateTable.keyed_decideAs _ hp.keyed hd, GateTable.listeners_decideAs hd,
    GateTable.told_decideAs hp.keyed (GateTable.outcome_ne_pending hs) hd⟩

theorem orderly_of_decide (hp : Orderly p)
    (decided : p.run.gates.decide j d actor comment clock = .ok change) (now : Time) :
    Orderly (p.after now ({ p.run with gates := change.table }.deliver change.notices)) ∧
      ({ p.run with gates := change.table }.deliver change.notices).run.id = p.run.run.id := by
  obtain ⟨hk, _, told⟩ := told_of_decide hp decided
  have h := handles_told p.run change.table change.notices
  exact ⟨orderly_after hp h hk (owned_of_told hp told) now, h.runId⟩

end Decision

/-- What a deed comes to. -/
structure Steps (p q : Journaled) : Prop where
  orderly : Orderly q
  listens : Listens q
  runId : q.run.run.id = p.run.run.id
  shift : ∀ id, p.run.OwnGate id → Copies.Shift (p.copies id) (q.copies id)

theorem steps_of_told (hp : Orderly p) (hl : Listens p) (hk : table.Keyed)
    (listeners : table.listeners = p.run.gates.listeners)
    (h : Handles p.run s table (p.run.heard notices))
    (told : ∀ id, GateTable.Told p.run.gates table notices id) (now : Time) :
    Steps p (p.after now s) where
  orderly := orderly_after hp h hk (owned_of_told hp told) now
  listens := listens_after hl h listeners now
  runId := h.runId
  shift := fun id own => shift_of_told hp own hl h (told id) now

theorem steps_of_work (hp : Orderly p) (hl : Listens p) (h : Work p.run s) (now : Time) :
    Steps p (p.after now s) := by
  cases h.gateWork with
  | none h =>
    refine ⟨orderly_after hp h hp.keyed hp.owned now, listens_after hl h rfl now, h.runId,
      fun id own => ?_⟩
    rw [copies_of_silent h rfl (by simp)]
    exact .still _
  | request name trigger release clock h =>
    obtain ⟨hself, hother, hlisteners, hcase⟩ :=
      GateTable.request_spec p.run.gates name p.run.run.id trigger release clock
    have hk := GateTable.keyed_request name p.run.run.id trigger release clock hp.keyed
    refine ⟨orderly_after hp h hk (fun id g own hg => ?_) now, listens_after hl h hlisteners now,
      h.runId, fun id own => shift_of_request hp own h now⟩
    by_cases hid : id = gateId p.run.run.id name
    · subst hid
      cases hself.symm.trans hg
      rcases hcase with ⟨hold, _⟩ | ⟨_, hrun, _⟩
      · exact hp.owned _ _ own hold
      · exact hrun
    · exact hp.owned id g own ((hother id hid).symm.trans hg)
  | expire settled h =>
    exact steps_of_told hp hl (GateTable.keyed_decideAs _ hp.keyed settled)
      (GateTable.listeners_decideAs settled) h (GateTable.told_decideAs hp.keyed (by simp) settled) now

theorem steps_of_decide (hp : Orderly p) (hl : Listens p) {j actor comment : String} {d : Decision}
    {change : GateChange Nat GateStatus}
    (decided : p.run.gates.decide j d actor comment p.run.now = .ok change) (now : Time) :
    Steps p (p.after now ({ p.run with gates := change.table }.deliver change.notices)) := by
  obtain ⟨hk, hlisteners, told⟩ := told_of_decide hp decided
  exact steps_of_told hp hl hk hlisteners (handles_told _ _ _) told now

theorem silent_of_foreign (foreign : ∀ n ∈ notices, n.2.runId ≠ p.run.run.id) :
    ∀ g ∈ p.run.heard notices, g.id ≠ id :=
  fun _ hg => absurd (mem_heard.1 hg).2 (foreign _ (mem_heard.1 hg).1)

/-- Whatever others do, the gates of the run are where they belong. -/
theorem Elsewhere.orderly (hp : Orderly p) (h : Elsewhere p q) :
    Orderly q ∧ q.run.run.id = p.run.run.id := by
  cases h with
  | decide decided now => exact orderly_of_decide hp decided now
  | poll h =>
    cases h with
    | pass _ _ decided now => exact orderly_of_decide hp decided now
  | record _ decided => exact ⟨⟨hp.keyed, hp.filed.decideGate decided, hp.owned⟩, rfl⟩
  | @table table notices keyed _ same _ now =>
    have h := handles_told p.run table notices
    exact ⟨orderly_after hp h keyed (fun id g own hg =>
      hp.owned id g own ((same id own).symm.trans hg)) now, h.runId⟩
  | rows filed => exact ⟨⟨hp.keyed, filed, hp.owned⟩, rfl⟩

theorem Elsewhere.steps (hp : Orderly p) (hl : Listens p) (h : Elsewhere p q) : Steps p q := by
  have horderly := h.orderly hp
  cases h with
  | decide decided now => exact steps_of_decide hp hl decided now
  | poll h =>
    cases h with
    | pass _ _ decided now => exact steps_of_decide hp hl decided now
  | @record j actor comment status answer clock store settled decided =>
    refine ⟨horderly.1, hl, horderly.2, fun id own => ?_⟩
    rcases RunStore.gate?_decideGate decided id with he | ⟨g, g', hg, waiting, hg', hs⟩
    · rw [copies, copies, he]
      exact .still _
    · rw [copies, copies, hg, hg']
      exact .outside _ waiting (hs ▸ settled)
  | @table table notices _ listeners same foreign now =>
    have h := handles_told p.run table notices
    refine ⟨horderly.1, ?_, horderly.2, fun id own => ?_⟩
    · rw [Listens, after, h.self, h.gates]
      exact listeners hl
    · rw [copies_of_silent h (same id own) (silent_of_foreign foreign)]
      exact .still _
  | rows filed same =>
    refine ⟨horderly.1, hl, horderly.2, fun id own => ?_⟩
    rw [copies, copies, same id own]
    exact .still _

theorem Deed.steps (hp : Orderly p) (hl : Listens p) (h : Deed p q) : Steps p q := by
  cases h with
  | work h now => exact steps_of_work hp hl h now
  | elsewhere h => exact h.steps hp hl

/-! ## The end of a run -/

/-- At its end a run waits for no gate any more. -/
theorem steps_of_ends (hp : Orderly p) (hl : Listens p) (now : Time) :
    Orderly (p.ends now) ∧ (p.ends now).run.run.id = p.run.run.id ∧
      ∀ id, p.run.OwnGate id →
        Copies.Shift (p.copies id) ((p.ends now).copies id) ∧ ((p.ends now).copies id).Closed := by
  have h := handles_finish p.run
  have hk := GateTable.keyed_closeRun p.run.run.id p.run.now hp.keyed
  have told : ∀ id, GateTable.Told p.run.gates
      ((p.run.gates.closeRun p.run.run.id p.run.now).table.unsubscribe p.run.self)
      (p.run.gates.closeRun p.run.run.id p.run.now).notices id :=
    fun id => (GateTable.told_closeAll hp.keyed p.run.now _ id).of_get? rfl
  refine ⟨orderly_after hp h hk (owned_of_told hp told) now, h.runId, fun id own =>
    ⟨shift_of_told hp own hl h (told id) now, fun g hg => ?_⟩⟩
  have hg : (p.run.gates.closeRun p.run.run.id p.run.now).table.get? id = some g := by
    rw [copies, ends, after, h.gates] at hg
    exact hg
  cases told id with
  | still same =>
    have hold : p.run.gates.get? id = some g := same.symm.trans hg
    exact GateTable.over_of_closeRun hp.keyed hold (hp.owned id g own hold) hg
  | decided was _ _ _ _ => exact GateTable.over_of_closeRun hp.keyed was (hp.owned id _ own was) hg

/-- Once a gate is decided in both copies, nobody changes them. -/
theorem Elsewhere.still (hp : Orderly p) (own : p.run.OwnGate id) (h : Elsewhere p q)
    (closed : (p.copies id).Closed) (filed : ∀ r, (p.copies id).row = some r → r.status ≠ .pending) :
    q.copies id = p.copies id := by
  have hdecide : ∀ {j actor comment : String} {d : Decision} {change : GateChange Nat GateStatus}
      (now : Time), p.run.gates.decide j d actor comment p.run.now = .ok change →
      (p.after now ({ p.run with gates := change.table }.deliver change.notices)).copies id =
        p.copies id := by
    intro j actor comment d change now decided
    obtain ⟨_, _, told⟩ := told_of_decide hp decided
    cases told id with
    | still same silent =>
      exact copies_of_silent (handles_told _ _ _) same (silent_of_notices silent) now
    | decided was waiting => exact absurd waiting (closed _ was)
  cases h with
  | decide decided now => exact hdecide now decided
  | poll h =>
    cases h with
    | pass _ _ decided now => exact hdecide now decided
  | @record j actor comment status answer clock store settled decided =>
    rcases RunStore.gate?_decideGate decided id with he | ⟨g, _, hg, waiting, _⟩
    · rw [copies, copies, he]
    · exact absurd waiting (filed g hg)
  | @table table notices _ _ same foreign now =>
    exact copies_of_silent (handles_told p.run table notices) (same id own)
      (silent_of_foreign foreign) now
  | rows _ same => rw [copies, copies, same id own]

end Journaled

end GatedPipeline
