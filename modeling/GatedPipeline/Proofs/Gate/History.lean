-- The history of a gate table. What is told to listeners goes along with what
-- happens to the gates: of each gate one thing is told, when it is decided, to all
-- who listen then. Before that nothing is told of it, and afterwards nothing
-- changes about it. Policies may answer as they like, but are asked of new gates
-- only.
import GatedPipeline.Proofs.Gate.Copies
import Mathlib.Data.List.Induction
namespace GatedPipeline

/-- What a policy answers: the name under which it approves, if it does. -/
def Policy.answer (p : Policy) (r : Policy.Request) : Option String :=
  if p.approves r then some p.name else none

namespace GateTable

variable {ι : Type} {t t' u : GateTable ι} {id : String} {now : Time} {g : Gate}
  {notices notices' : List (ι × Gate)}

/-! ## Asking a policy -/

/-- Asks for a gate, with someone who puts the question to the policy. To ask may take effects of
any kind. There is no answer when the policy does not approve, or breaks down. -/
def requestAsking {m : Type → Type} [Monad m] (t : GateTable ι)
    (ask : Policy → Policy.Request → m (Option String)) (name runId : String)
    (trigger : Option Trigger) (release : Option (List (String × String))) (now : Time) :
    m (GateChange ι Gate) :=
  match t.get? (gateId runId name) with
  | some g => pure { table := t, answer := g }
  | none =>
    let g : Gate := { name, runId, requestedAt := now }
    let table := t.put g
    match trigger, t.policyFor? name with
    | some trigger, some policy => do
      match ← ask policy (table.policyRequest name runId trigger release) with
      | some label =>
        let g := g.decided .approved ("policy:" ++ label) "auto approve" now
        pure { table := table.put g, answer := g, notices := table.notices g }
      | none => pure { table, answer := g }
    | _, _ => pure { table, answer := g }

/-- A request asks the policies of the language, which just answer. -/
theorem request_eq (t : GateTable ι) (name runId : String) (trigger : Option Trigger)
    (release : Option (List (String × String))) (now : Time) :
    t.request name runId trigger release now =
      Id.run (t.requestAsking (fun p r => pure (p.answer r)) name runId trigger release now) := by
  rcases hg : t.get? (gateId runId name) with _ | g
  · rcases hp : t.policyFor? name with _ | policy
    · simp only [request, requestAsking, hg, hp]
      cases trigger <;> rfl
    · rcases trigger with _ | trigger
      · simp only [request, requestAsking, hg]
        rfl
      · simp only [request, requestAsking, hg, hp, Policy.answer]
        split <;> simp
  · simp only [request, requestAsking, hg]
    rfl

/-- Of a gate that is there no policy is asked, and nothing is done. -/
theorem requestAsking_of_some {m : Type → Type} [Monad m]
    (ask : Policy → Policy.Request → m (Option String)) {name runId : String}
    (trigger : Option Trigger) (release : Option (List (String × String))) (now : Time)
    (h : t.get? (gateId runId name) = some g) :
    t.requestAsking ask name runId trigger release now = pure { table := t, answer := g } := by
  rw [requestAsking, h]

/-! ## Calls -/

/-- What is asked of a gate table. In a request it is also said what a policy answers in this call,
if one is asked. -/
inductive Call (ι : Type) where
  | attach (pattern : String) (p : Policy)
  | subscribe (listener : ι)
  | unsubscribe (listener : ι)
  | request (name runId : String) (trigger : Option Trigger)
      (release : Option (List (String × String))) (answer : Policy → Policy.Request → Option String)
  | decide (id : String) (d : Decision) (actor comment : String)
  | closeRun (runId : String)
  /-- Someone looks at the gates. -/
  | look

/-- The table after a call, and what was told. A call that is refused does nothing. -/
def call [DecidableEq ι] (t : GateTable ι) (now : Time) : Call ι → GateTable ι × List (ι × Gate)
  | .attach pattern p => (t.attach pattern p, [])
  | .subscribe listener => (t.subscribe listener, [])
  | .unsubscribe listener => (t.unsubscribe listener, [])
  | .request name runId trigger release answer =>
    let change := Id.run (t.requestAsking (fun p r => pure (answer p r)) name runId trigger release now)
    (change.table, change.notices)
  | .decide id d actor comment =>
    match t.decide id d actor comment now with
    | .ok change => (change.table, change.notices)
    | .error _ => (t, [])
  | .closeRun runId => ((t.closeRun runId now).table, (t.closeRun runId now).notices)
  | .look => (t, [])

theorem call_request [DecidableEq ι] (t : GateTable ι) (now : Time) (name runId : String)
    (trigger : Option Trigger) (release : Option (List (String × String))) :
    t.call now (.request name runId trigger release Policy.answer) =
      ((t.request name runId trigger release now).table,
        (t.request name runId trigger release now).notices) := by
  rw [request_eq]
  rfl

/-- The table after some calls on a new one, each at its own moment, and all that was told. -/
def calls [DecidableEq ι] (cs : List (Time × Call ι)) : GateTable ι × List (ι × Gate) :=
  cs.foldl (fun (t, told) (now, c) => ((t.call now c).1, told ++ (t.call now c).2)) ({}, [])

theorem calls_concat [DecidableEq ι] (cs : List (Time × Call ι)) (now : Time) (c : Call ι) :
    calls (cs ++ [(now, c)]) = (((calls cs).1.call now c).1,
      (calls cs).2 ++ ((calls cs).1.call now c).2) := by
  rw [calls, List.foldl_append]
  rfl

/-- How often a listener is registered after some calls. -/
def registrations [DecidableEq ι] (k : ι) (cs : List (Time × Call ι)) : Nat :=
  cs.foldl (fun n (_, c) =>
    match c with
    | .subscribe k' => if k' = k then n + 1 else n
    | .unsubscribe k' => if k' = k then n - 1 else n
    | _ => n) 0

/-! ## What happens to one gate -/

/-- What was told of a gate. -/
def toldOf (id : String) (notices : List (ι × Gate)) : List (ι × Gate) :=
  notices.filter fun n => n.2.id = id

/-- A gate of the table is decided. -/
def Decided (t : GateTable ι) (id : String) : Prop := ∃ g, t.get? id = some g ∧ g.status ≠ .pending

/-- What becomes of a gate, and what is told of it. -/
inductive Turn (t t' : GateTable ι) (notices : List (ι × Gate)) (id : String) : Prop
  | still (same : t'.get? id = t.get? id) (silent : toldOf id notices = [])
  | opened (was : t.get? id = none) {g : Gate} (is : t'.get? id = some g)
      (waiting : g.status = .pending) (silent : toldOf id notices = [])
  /-- It is decided, and all who listen are told, each once. -/
  | decided (was : ¬ t.Decided id) {g : Gate} (is : t'.get? id = some g)
      (settled : g.status ≠ .pending) (told : toldOf id notices = t.notices g)

theorem toldOf_append : toldOf id (notices ++ notices') = toldOf id notices ++ toldOf id notices' :=
  List.filter_append ..

theorem toldOf_notices (t : GateTable ι) (g : Gate) :
    toldOf id (t.notices g) = if g.id = id then t.notices g else [] := by
  unfold toldOf notices
  split
  · rename_i h
    rw [List.filter_eq_self]
    rintro n hn
    obtain ⟨k, _, rfl⟩ := List.mem_map.1 hn
    simpa using h
  · rename_i h
    rw [List.filter_eq_nil_iff]
    rintro n hn
    obtain ⟨k, _, rfl⟩ := List.mem_map.1 hn
    simpa using h

theorem Turn.refl (t : GateTable ι) (id : String) : Turn t t [] id := .still rfl rfl

/-- Decisions, one after the other: of those on one gate only the first one is told. -/
theorem Turn.trans (h : Turn t t' notices id) (h' : Turn t' u notices' id)
    (listeners : t'.listeners = t.listeners) : Turn t u (notices ++ notices') id := by
  cases h with
  | still same silent =>
    cases h' with
    | still same' silent' =>
      exact .still (same'.trans same) (by rw [toldOf_append, silent, silent']; rfl)
    | opened was is waiting silent' =>
      exact .opened (same ▸ was) is waiting (by rw [toldOf_append, silent, silent']; rfl)
    | decided was is settled told =>
      refine .decided (fun ⟨g, hg, hd⟩ => was ⟨g, same ▸ hg, hd⟩) is settled ?_
      rw [toldOf_append, silent, told, List.nil_append, GateTable.notices, listeners]
      rfl
  | opened was is waiting silent =>
    cases h' with
    | still same' silent' =>
      exact .opened was (same'.trans is) waiting (by rw [toldOf_append, silent, silent']; rfl)
    | opened was' => rw [was'] at is; cases is
    | decided _ is' settled told =>
      refine .decided (fun ⟨g, hg, _⟩ => ?_) is' settled ?_
      · rw [was] at hg
        cases hg
      · rw [toldOf_append, silent, told, List.nil_append, GateTable.notices, listeners]
        rfl
  | decided was is settled told =>
    cases h' with
    | still same' silent' =>
      exact .decided was (same'.trans is) settled
        (by rw [toldOf_append, told, silent', List.append_nil])
    | opened was' => rw [was'] at is; cases is
    | decided was' => exact absurd ⟨_, is, settled⟩ was'

section Decisions

variable {j actor comment : String} {status : GateStatus} {c : GateChange ι GateStatus}

theorem turn_decideAs (hk : t.Keyed) (hs : status ≠ .pending)
    (h : t.decideAs j status actor comment now = .ok c) (id : String) :
    Turn t c.table c.notices id := by
  rcases decideAs_cases h with ⟨ht, hn, _⟩ | ⟨g, hg, hp, ht, hn⟩
  · rw [ht, hn]
    exact Turn.refl t id
  · have hget : c.table.get? id =
        if id = j then some (g.decided status actor comment now) else t.get? id := by
      rw [ht]
      exact getPair?_putPair j id _ t.gates
    have hid : (g.decided status actor comment now).id = j := hk j g hg
    have htold : toldOf id (t.notices (g.decided status actor comment now)) = _ :=
      toldOf_notices t (g.decided status actor comment now)
    rw [← hn, hid] at htold
    by_cases hij : j = id
    · subst hij
      refine .decided ?_ (hget.trans (if_pos rfl)) hs (htold.trans ?_)
      · rintro ⟨g', hg', hd⟩
        cases hg.symm.trans hg'
        exact hd hp
      · rw [if_pos rfl, hn]
    · exact .still (hget.trans (if_neg (Ne.symm hij))) (htold.trans (if_neg hij))

/-- The answer to a decision is the status that the gate has afterwards. -/
theorem answer_decideAs (h : t.decideAs j status actor comment now = .ok c) :
    (c.table.get? j).map Gate.status = some c.answer := by
  unfold decideAs at h
  split at h
  · cases h
  · rename_i g hg
    split at h
    · cases h
      rw [get?, getPair?_putPair_self]
      rfl
    · cases h
      rw [hg]
      rfl

theorem turn_closeAll (hk : t.Keyed) (now : Time) (ids : List String) (id : String) :
    Turn t (t.closeAll now ids).table (t.closeAll now ids).notices id := by
  induction ids generalizing t with
  | nil => exact Turn.refl t id
  | cons j ids ih =>
    rcases closeAll_cons t now j ids with ⟨he, _⟩ | ⟨c, hc, ht, hn⟩
    · rw [he]
      exact ih hk
    · rw [ht, hn]
      exact (turn_decideAs hk (by simp) hc id).trans (ih (keyed_decideAs now hk hc))
        (listeners_decideAs hc)

theorem listeners_closeAll (t : GateTable ι) (now : Time) (ids : List String) :
    (t.closeAll now ids).table.listeners = t.listeners := by
  induction ids generalizing t with
  | nil => rfl
  | cons j ids ih =>
    rcases closeAll_cons t now j ids with ⟨he, _⟩ | ⟨c, hc, ht, _⟩
    · rw [he]
      exact ih t
    · rw [ht]
      exact (ih c.table).trans (listeners_decideAs hc)

/-- A decision is refused if it is none, or if there is no such gate. -/
theorem decide_eq_error_iff {d : Decision} {fault : GateFault} :
    t.decide j d actor comment now = .error fault ↔
      (d.outcome? = none ∧ fault = .invalidDecision d) ∨
        (d.outcome? ≠ none ∧ t.get? j = none ∧ fault = .unknown j) := by
  unfold decide
  rcases hd : d.outcome? with _ | status
  · simp [eq_comm]
  · unfold decideAs
    rcases hg : t.get? j with _ | g
    · simp [eq_comm]
    · by_cases hp : g.status = .pending <;> simp [hp]

end Decisions

/-! ## What happens to a gate in a call -/

section Call

variable (ask : Policy → Policy.Request → Option String) (name runId : String)
  (trigger : Option Trigger) (release : Option (List (String × String))) (now : Time)

/-- What a request can come to, whatever the policies answer: the gate is there, or it is put there
as a pending one, or as one that a policy has approved. -/
theorem requestAsking_cases (t : GateTable ι) :
    let c := Id.run (t.requestAsking (fun p r => pure (ask p r)) name runId trigger release now)
    (∃ g, t.get? (gateId runId name) = some g ∧ c = { table := t, answer := g }) ∨
      t.get? (gateId runId name) = none ∧ ∃ new : Gate, new.id = gateId runId name ∧
        (new.status = .pending ∧ c = { table := t.put new, answer := new } ∨
          ∃ g : Gate, g.id = gateId runId name ∧ g.status ≠ .pending ∧
            c = { table := (t.put new).put g, answer := g, notices := t.notices g }) := by
  intro c
  rcases hg : t.get? (gateId runId name) with _ | g
  · refine Or.inr ⟨rfl, { name, runId, requestedAt := now }, rfl, ?_⟩
    dsimp only [c, requestAsking]
    rw [hg]
    dsimp only
    split
    · rename_i trigger policy _
      rcases ha : ask policy
          ((t.put { name, runId, requestedAt := now }).policyRequest name runId trigger release)
        with _ | label
      · exact Or.inl ⟨rfl, by simp⟩
      · exact Or.inr ⟨Gate.decided { name, runId, requestedAt := now } .approved
          ("policy:" ++ label) "auto approve" now, rfl, by simp [Gate.decided], by simp; rfl⟩
    · exact Or.inl ⟨rfl, rfl⟩
  · exact Or.inl ⟨g, rfl, congrArg Id.run (requestAsking_of_some _ trigger release now hg)⟩

theorem turn_requestAsking (t : GateTable ι) (id : String) :
    let c := Id.run (t.requestAsking (fun p r => pure (ask p r)) name runId trigger release now)
    Turn t c.table c.notices id := by
  intro c
  rcases requestAsking_cases ask name runId trigger release now t with
    ⟨g, _, hc⟩ | ⟨hnone, new, hnew, ⟨hp, hc⟩ | ⟨g, hg, hd, hc⟩⟩
  · simp only [c, hc]
    exact Turn.refl t id
  · simp only [c, hc]
    by_cases hid : id = gateId runId name
    · subst hid
      exact .opened hnone (by rw [get?_put, hnew, if_pos rfl]) hp rfl
    · exact .still (by rw [get?_put, hnew, if_neg hid]) rfl
  · simp only [c, hc]
    have htold : toldOf id (t.notices g) = _ := toldOf_notices t g
    rw [hg] at htold
    by_cases hid : id = gateId runId name
    · subst hid
      refine .decided ?_ (by rw [get?_put, hg, if_pos rfl]) hd (htold.trans (if_pos rfl))
      rintro ⟨g', hg', _⟩
      rw [hnone] at hg'
      cases hg'
    · refine .still ?_ (htold.trans (if_neg (Ne.symm hid)))
      rw [get?_put, hg, if_neg hid, get?_put, hnew, if_neg hid]

theorem keyed_requestAsking (hk : t.Keyed) :
    (Id.run (t.requestAsking (fun p r => pure (ask p r)) name runId trigger release now)).table.Keyed := by
  rcases requestAsking_cases ask name runId trigger release now t with
    ⟨g, _, hc⟩ | ⟨_, new, _, ⟨_, hc⟩ | ⟨g, _, _, hc⟩⟩
  · rw [hc]
    exact hk
  · rw [hc]
    exact keyed_put hk new
  · rw [hc]
    exact keyed_put (keyed_put hk new) g

end Call

variable [DecidableEq ι]

theorem turn_call (hk : t.Keyed) (now : Time) (c : Call ι) (id : String) :
    Turn t (t.call now c).1 (t.call now c).2 id := by
  cases c with
  | attach | subscribe | unsubscribe | look => exact .still rfl rfl
  | request name runId trigger release answer =>
    exact turn_requestAsking answer name runId trigger release now t id
  | decide j d actor comment =>
    unfold call
    dsimp only
    split
    · rename_i change h
      obtain ⟨status, hs, hd⟩ := decideAs_of_decide now h
      exact turn_decideAs hk (outcome_ne_pending hs) hd id
    · exact Turn.refl t id
  | closeRun runId => exact turn_closeAll hk now _ id

theorem keyed_call (hk : t.Keyed) (now : Time) (c : Call ι) : (t.call now c).1.Keyed := by
  cases c with
  | attach | subscribe | unsubscribe | look => exact hk
  | request name runId trigger release answer =>
    exact keyed_requestAsking answer name runId trigger release now hk
  | decide j d actor comment =>
    unfold call
    dsimp only
    split
    · rename_i change h
      obtain ⟨_, _, hd⟩ := decideAs_of_decide now h
      exact keyed_decideAs now hk hd
    · exact hk
  | closeRun runId => exact keyed_closeRun runId now hk

/-- Registrations come and go by their own calls. -/
theorem listeners_call (t : GateTable ι) (now : Time) (c : Call ι) :
    (t.call now c).1.listeners =
      match c with
      | .subscribe k => t.listeners ++ [k]
      | .unsubscribe k => t.listeners.erase k
      | _ => t.listeners := by
  cases c with
  | attach | subscribe | unsubscribe | look => rfl
  | request name runId trigger release answer =>
    unfold call
    dsimp only
    rcases requestAsking_cases answer name runId trigger release now t with
      ⟨_, _, hc⟩ | ⟨_, _, _, ⟨_, hc⟩ | ⟨_, _, _, hc⟩⟩ <;> rw [hc] <;> rfl
  | decide j d actor comment =>
    unfold call
    dsimp only
    split
    · rename_i change h
      obtain ⟨_, _, hd⟩ := decideAs_of_decide now h
      exact listeners_decideAs hd
    · rfl
  | closeRun runId => exact listeners_closeAll t now _

/-! ## The whole history -/

theorem count_listeners (cs : List (Time × Call ι)) (k : ι) :
    (calls cs).1.listeners.count k = registrations k cs := by
  induction cs using List.reverseRecOn with
  | nil => rfl
  | append_singleton cs p ih =>
    obtain ⟨now, c⟩ := p
    rw [calls_concat, listeners_call, registrations, List.foldl_append, List.foldl_cons,
      List.foldl_nil, ← registrations, ← ih]
    cases c with
    | subscribe k' =>
      by_cases hk : k' = k
      · simp [hk]
      · simp [hk, List.count_append]
    | unsubscribe k' =>
      by_cases hk : k' = k
      · simp [hk]
      · simp [hk, List.count_erase_of_ne (Ne.symm hk)]
    | _ => rfl

theorem keyed_calls (cs : List (Time × Call ι)) : (calls cs).1.Keyed := by
  induction cs using List.reverseRecOn with
  | nil => intro id g hg; cases hg
  | append_singleton cs p ih =>
    obtain ⟨now, c⟩ := p
    rw [calls_concat]
    exact keyed_call ih now c

theorem calls_of_decided (cs : List (Time × Call ι)) (hg : (calls cs).1.get? id = some g)
    (hd : g.status ≠ .pending) (more : List (Time × Call ι)) :
    (calls (cs ++ more)).1.get? id = some g := by
  induction more using List.reverseRecOn with
  | nil => rwa [List.append_nil]
  | append_singleton more p ih =>
    obtain ⟨now, c⟩ := p
    rw [← List.append_assoc, calls_concat]
    cases turn_call (keyed_calls (cs ++ more)) now c id with
    | still same => exact same.trans ih
    | opened was => rw [was] at ih; cases ih
    | decided was => exact absurd ⟨g, ih, hd⟩ was

/-- A call in which a gate is decided, and what is told of it then. -/
structure DecidedIn (cs before : List (Time × Call ι)) (now : Time) (c : Call ι) (id : String)
    (g : Gate) : Prop where
  among : ∃ after, cs = before ++ (now, c) :: after
  was : ¬ (calls before).1.Decided id
  is : ((calls before).1.call now c).1.get? id = some g
  told : toldOf id ((calls before).1.call now c).2 = (calls before).1.listeners.map (·, g)

theorem DecidedIn.concat {cs before : List (Time × Call ι)} {c : Call ι}
    (h : DecidedIn cs before now c id g) (p : Time × Call ι) :
    DecidedIn (cs ++ [p]) before now c id g := by
  obtain ⟨after, he⟩ := h.among
  exact ⟨⟨after ++ [p], by rw [he]; simp⟩, h.was, h.is, h.told⟩

/-- All that is told of a gate is told in the call in which it is decided. -/
theorem toldOf_calls (cs : List (Time × Call ι)) (id : String) :
    (¬ (calls cs).1.Decided id ∧ toldOf id (calls cs).2 = []) ∨
      ∃ g before now c, (calls cs).1.get? id = some g ∧ g.status ≠ .pending ∧
        DecidedIn cs before now c id g ∧
        toldOf id (calls cs).2 = toldOf id ((calls before).1.call now c).2 := by
  induction cs using List.reverseRecOn with
  | nil =>
    refine Or.inl ⟨?_, rfl⟩
    rintro ⟨g, hg, _⟩
    cases hg
  | append_singleton cs p ih =>
    obtain ⟨now, c⟩ := p
    have hconcat := calls_concat cs now c
    have hlog : toldOf id (calls (cs ++ [(now, c)])).2 =
        toldOf id (calls cs).2 ++ toldOf id ((calls cs).1.call now c).2 := by
      rw [hconcat, toldOf_append]
    rcases ih with ⟨hnot, hsilent⟩ | ⟨g, before, now', c', hg, hd, hin, htold⟩
    · rw [hlog, hsilent, List.nil_append, hconcat]
      cases turn_call (keyed_calls cs) now c id with
      | still same silent =>
        exact Or.inl ⟨fun ⟨g, hg, hd⟩ => hnot ⟨g, same.symm.trans hg, hd⟩, silent⟩
      | opened was is waiting silent =>
        refine Or.inl ⟨?_, silent⟩
        rintro ⟨g, hg, hd⟩
        cases is.symm.trans hg
        exact hd waiting
      | @decided was g is settled told =>
        exact Or.inr ⟨g, cs, now, c, is, settled, ⟨⟨[], rfl⟩, was, is, told⟩, rfl⟩
    · have hstays := calls_of_decided cs hg hd [(now, c)]
      refine Or.inr ⟨g, before, now', c', hstays, hd, hin.concat _, ?_⟩
      have hnothing : toldOf id ((calls cs).1.call now c).2 = [] := by
        cases turn_call (keyed_calls cs) now c id with
        | still _ silent => exact silent
        | opened _ _ _ silent => exact silent
        | decided was => exact absurd ⟨g, hg, hd⟩ was
      rw [hlog, hnothing, List.append_nil, htold]

/-! ## The law -/

/-- A gate that is decided stays as it was decided. A request does what it does with policies that
may answer anything; to ask for a gate that is there changes nothing, and no policy is asked. Of a
gate that is not decided nothing was ever told; of one that is, all that was ever told was told in
the call that decided it, once to every listener of that moment, with the gate as it is now. A
decision is answered with the status that the gate has afterwards; one that is none, or on a gate
that is not there, is refused, changes nothing and is told to nobody. -/
theorem a_gate_is_decided_once_and_told_once (cs : List (Time × Call ι)) (id : String) :
    let t := (calls cs).1
    (∀ g more, t.get? id = some g → g.status ≠ .pending →
      (calls (cs ++ more)).1.get? id = some g) ∧
    (∀ name runId trigger release now,
      t.call now (.request name runId trigger release Policy.answer) =
        ((t.request name runId trigger release now).table,
          (t.request name runId trigger release now).notices)) ∧
    (∀ name runId g trigger release now, t.get? (gateId runId name) = some g →
      t.request name runId trigger release now = { table := t, answer := g } ∧
        ∀ (m : Type → Type) [Monad m] (ask : Policy → Policy.Request → m (Option String)),
          t.requestAsking ask name runId trigger release now = pure { table := t, answer := g }) ∧
    (¬ t.Decided id → toldOf id (calls cs).2 = []) ∧
    (∀ g, t.get? id = some g → g.status ≠ .pending →
      ∃ before now c, DecidedIn cs before now c id g ∧
        toldOf id (calls cs).2 = (calls before).1.listeners.map (·, g) ∧
        ∀ k, (calls before).1.listeners.count k = registrations k before) ∧
    ∀ d actor comment now,
      (∀ change, t.decide id d actor comment now = .ok change →
        t.call now (.decide id d actor comment) = (change.table, change.notices) ∧
          (change.table.get? id).map Gate.status = some change.answer) ∧
      (∀ fault, t.decide id d actor comment now = .error fault →
        t.call now (.decide id d actor comment) = (t, [])) ∧
      ∀ fault, t.decide id d actor comment now = .error fault ↔
        (d.outcome? = none ∧ fault = .invalidDecision d) ∨
          (d.outcome? ≠ none ∧ t.get? id = none ∧ fault = .unknown id) := by
  intro t
  refine ⟨fun g more hg hd => calls_of_decided cs hg hd more,
    fun name runId trigger release now => call_request t now name runId trigger release,
    fun name runId g trigger release now hg => ⟨?_, fun m _ ask =>
      requestAsking_of_some ask trigger release now hg⟩,
    fun hnot => ?_, fun g hg hd => ?_, fun d actor comment now => ⟨fun change h => ?_,
      fun fault h => by simp only [call, h], fun fault => decide_eq_error_iff⟩⟩
  · rw [request_eq, requestAsking_of_some _ trigger release now hg]
    rfl
  · rcases toldOf_calls cs id with ⟨_, hsilent⟩ | ⟨g, _, _, _, hg, hd, _⟩
    · exact hsilent
    · exact absurd ⟨g, hg, hd⟩ hnot
  · rcases toldOf_calls cs id with ⟨hnot, _⟩ | ⟨g', before, now, c, hg', _, hin, htold⟩
    · exact absurd ⟨g, hg, hd⟩ hnot
    · cases hg.symm.trans hg'
      exact ⟨before, now, c, hin, htold.trans hin.told, count_listeners before⟩
  · obtain ⟨status, _, hd⟩ := decideAs_of_decide now h
    exact ⟨by simp only [call, h], answer_decideAs hd⟩

/-- A gate whose policy breaks down is approved, while two listen; what comes later finds it
decided. -/
def releaseCalls : List (Time × Call Nat) := [
  (1, .attach "*" .broken), (2, .subscribe 1),
  (3, .request "prod" "r1" (some {}) none Policy.answer), (4, .subscribe 2),
  (5, .decide "r1/prod" (.words "Approve") "ann" "fine"), (6, .unsubscribe 2),
  (7, .decide "r1/prod" (.words "reject") "bob" ""), (8, .closeRun "r1")]

def approvedRelease : Gate where
  name := "prod"
  runId := "r1"
  status := .approved
  actor := some "ann"
  comment := "fine"
  requestedAt := 3
  decidedAt := some 5

theorem the_approval_is_told_to_both_who_listen :
    (calls releaseCalls).1.get? "r1/prod" = some approvedRelease ∧
      approvedRelease.status ≠ .pending ∧
      (calls releaseCalls).2 = [(1, approvedRelease), (2, approvedRelease)] ∧
      ∃ before now c, DecidedIn releaseCalls before now c "r1/prod" approvedRelease := by
  have hg : (calls releaseCalls).1.get? "r1/prod" = some approvedRelease := by decide +kernel
  obtain ⟨before, now, c, hin, _⟩ := (a_gate_is_decided_once_and_told_once releaseCalls
    "r1/prod").2.2.2.2.1 approvedRelease hg (by decide)
  exact ⟨hg, by decide, by decide +kernel, before, now, c, hin⟩

end GateTable

end GatedPipeline
