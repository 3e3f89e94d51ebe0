-- Runs that share a host. Whatever is done for one of them, its gates are put
-- into the table and written down, its schedulers are told, and the others have
-- what they had: their gates, their queues and their rows.
import GatedPipeline.Host
import GatedPipeline.Proofs.Gate.Isolation
import GatedPipeline.Proofs.Run.Lifecycle
namespace GatedPipeline

namespace Scheduler

variable {s₀ s t e : Scheduler} {a : String}

/-! ## Gates that a run waits for -/

/-- The run waits for gates of its own only. -/
def WaitsOwn (s : Scheduler) : Prop := ∀ w ∈ s.awaiting, s.OwnGate w.2

/-- Nothing new is waited for. -/
theorem WaitsOwn.of_subset (h : WaitsOwn s) (hrun : t.run.id = s.run.id)
    (hsub : ∀ w ∈ t.awaiting, w ∈ s.awaiting) : WaitsOwn t := by
  intro w hw
  rw [ownGate_congr hrun]
  exact h w (hsub w hw)

theorem awaiting_move_subset (s : Scheduler) (id : String) (st : State) (error : Option String) :
    ∀ w ∈ (s.move id st error).awaiting, w ∈ s.awaiting := by
  intro w hw
  unfold move at hw
  dsimp only at hw
  split at hw
  · exact hw
  · dsimp only [write, emit] at hw
    split at hw
    · exact mem_of_mem_dropPair hw
    · exact hw

theorem WaitsOwn.wane (h : WaitsOwn s) (hw : Wane s t) : WaitsOwn t := by
  rcases hw with ha | hl
  · exact h.of_subset ha.runId fun w hm => ha.awaiting ▸ hm
  · exact h.of_subset hl.runId fun w hm => mem_of_mem_dropPair (hl.awaiting ▸ hm)

theorem WaitsOwn.rise (hf : Framed s) (h : WaitsOwn s) (hr : Rise e s t) : WaitsOwn t := by
  have hrun : t.run.id = s.run.id := (hr.logs hf).steady.runId
  cases hr with
  | block | ready => exact h.of_subset hrun (awaiting_move_subset s _ _ _)
  | wait =>
    intro w hw
    rw [ownGate_congr hrun]
    rcases mem_putPair (awaiting_move_subset _ _ _ _ w hw) with rfl | hw
    · exact ⟨_, rfl⟩
    · exact h w hw
  | pass => exact h.of_subset hrun fun w hw => mem_of_mem_dropPair hw
  | start => exact h.of_subset hrun (awaiting_move_subset s _ _ _)
  | succeed known told good was wrote all =>
    refine h.of_subset hrun fun w hw => ?_
    rw [complete_of_success known was good wrote all] at hw
    exact mem_of_mem_dropPair hw

theorem Leads.waitsOwn (h₀ : Poised s₀) (h : Leads s₀ s) : WaitsOwn s :=
  h.keeps h₀.framed h₀.keyed (by simp [WaitsOwn, h₀.awaiting])
    (fun _ _ _ hu hw => hu.wane hw) fun _ _ _ hf hu hr => hu.rise hf hr

/-! ## What a scheduler does about gates -/

/-- The effect is about a gate of the run: it is written down, or a listener is told of it. -/
def About (a : String) (e : Effect) : Prop :=
  ∃ g : Gate, g.runId = a ∧ (e = .journal (.gate g) ∨ ∃ k, e = .notice k g)

/-- What a scheduler does about gates concerns one run only. -/
structure Minds (a : String) (s t : Scheduler) : Prop where
  puts : Puts a s.gates.gates t.gates.gates
  effects : ∃ notes, t.effects = s.effects ++ notes ∧ ∀ e ∈ notes, About a e

/-- It has done nothing about them. -/
theorem minds_of_same (a : String) (hg : t.gates = s.gates) (he : t.effects = s.effects) :
    Minds a s t := by
  refine ⟨hg ▸ .none, [], ?_, by simp⟩
  rw [he, List.append_nil]

variable {u : Scheduler}

theorem Minds.trans (h : Minds a s t) (h' : Minds a t u) : Minds a s u := by
  obtain ⟨notes, he, hn⟩ := h.effects
  obtain ⟨notes', he', hn'⟩ := h'.effects
  exact ⟨h.puts.trans h'.puts, notes ++ notes', by rw [he', he, List.append_assoc],
    fun e hm => (List.mem_append.1 hm).elim (hn e) (hn' e)⟩

theorem minds_deliver (s : Scheduler) {notices : List (Nat × Gate)}
    (h : ∀ n ∈ notices, n.2.runId = a) : Minds a s (s.deliver notices) := by
  induction notices generalizing s with
  | nil => exact minds_of_same a rfl rfl
  | cons n notices ih =>
    obtain ⟨k, g⟩ := n
    have hg : g.runId = a := h _ List.mem_cons_self
    have hone : Minds a s (if k = s.self then s.hear g else s.emit (.notice k g)) := by
      unfold hear
      split
      · split
        · exact ⟨.none, [.journal (.gate g)], rfl, by simpa using ⟨g, hg, Or.inl rfl⟩⟩
        · exact minds_of_same a rfl rfl
      · exact ⟨.none, [.notice k g], rfl, by simpa using ⟨g, hg, Or.inr ⟨k, rfl⟩⟩⟩
    exact hone.trans (ih _ fun n hn => h n (List.mem_cons_of_mem _ hn))

theorem minds_expireGate (ha : Slashless a) (hp : Plain s.gates.gates) (span : Time)
    (name : String) : Minds a s (s.expireGate span (gateId a name)) := by
  unfold expireGate
  split
  · exact minds_of_same a rfl rfl
  · split
    · split
      · rename_i change hc
        have hone := GateTable.concerns_decideAs ha hp hc
        have htold := minds_deliver { s with gates := change.table } hone.told
        exact ⟨hone.puts.trans htold.puts, htold.effects⟩
      · exact minds_of_same a rfl rfl
    · exact minds_of_same a rfl rfl

/-- A scheduler that rejects the gates that have waited too long concerns its own run only. -/
theorem minds_expireGates (ha : Slashless a) (hp : Plain s.gates.gates) (hrun : s.run.id = a)
    (hw : WaitsOwn s) : Minds a s s.expireGates := by
  have hall : ∀ (span : Time) (gids : List String), (∀ gid ∈ gids, ∃ name, gid = gateId a name) →
      ∀ t : Scheduler, Plain t.gates.gates → Minds a t (gids.foldl (expireGate span) t) := by
    intro span gids
    induction gids with
    | nil => exact fun _ t _ => minds_of_same a rfl rfl
    | cons gid gids ih =>
      intro own t hp
      obtain ⟨name, rfl⟩ := own gid List.mem_cons_self
      have hone := minds_expireGate ha hp span name
      exact hone.trans (ih (fun gid hm => own gid (List.mem_cons_of_mem _ hm)) _
        (hone.puts.plain ha hp))
  unfold expireGates
  split
  · exact minds_of_same a rfl rfl
  · refine hall _ _ (fun gid hm => ?_) s hp
    obtain ⟨w, hmem, rfl⟩ := List.mem_map.1 (List.mem_eraseDups.1 hm)
    obtain ⟨name, hname⟩ := hw w hmem
    exact ⟨name, hrun ▸ hname⟩

end Scheduler

/-! ## What is written down -/

/-- Gates of one run are written down in the store, and nothing else. -/
structure RunStore.Notes (a : String) (st st' : RunStore) : Prop where
  puts : Puts a st.gates st'.gates
  runs : st'.runs = st.runs
  stages : st'.stages = st.stages
  releases : st'.releases = st.releases

theorem RunStore.Notes.refl (a : String) (st : RunStore) : Notes a st st := ⟨.none, rfl, rfl, rfl⟩

theorem RunStore.Notes.trans {a : String} {st st' st'' : RunStore} (h : Notes a st st')
    (h' : Notes a st' st'') : Notes a st st'' :=
  ⟨h.puts.trans h'.puts, h'.runs.trans h.runs, h'.stages.trans h.stages,
    h'.releases.trans h.releases⟩

theorem RunStore.notes_recordGate (st : RunStore) {a : String} {g : Gate} (own : g.runId = a) :
    Notes a st (st.recordGate g) := by
  unfold recordGate
  split
  · split
    · exact ⟨.one own, rfl, rfl, rfl⟩
    · exact .refl a st
  · exact ⟨.one own, rfl, rfl, rfl⟩

namespace Host
open Scheduler

variable {p q r : Host} {a b : String} {key : Nat}

/-! ## Sessions -/

/-- The scheduler of a session. -/
def scheduler? (p : Host) (key : Nat) : Option Scheduler := (p.session? key).bind (·.scheduler)

theorem session?_putSession {session : Session} (h : p.session? key = some session)
    (new : Session) (k : Nat) :
    (p.putSession key new).session? k = if k = key then some new else p.session? k := by
  have hkey : key ≠ 0 := by
    rintro rfl
    cases h
  rw [session?, if_neg hkey] at h
  unfold session? putSession
  by_cases hk : k = 0
  · simp [hk, Ne.symm hkey]
  · rw [if_neg hk, if_neg hk]
    by_cases hsame : k = key
    · subst hsame
      have hlt := (List.getElem?_eq_some_iff.1 h).1
      simp [hlt]
    · rw [if_neg hsame]
      exact List.getElem?_set_ne (by omega)

theorem scheduler?_putSession {session : Session} (h : p.session? key = some session)
    (new : Session) (k : Nat) : (p.putSession key new).scheduler? k =
      if k = key then new.scheduler else p.scheduler? k := by
  rw [scheduler?, session?_putSession h, scheduler?]
  split <;> rfl

/-! ## What concerns one run -/

/-- What happens to a host concerns one run only: its gates are put into the table and written
down, and nothing reaches the schedulers of other runs. What a scheduler has done is not kept. -/
structure Confined (a : String) (p q : Host) : Prop where
  gates : Puts a p.orchestrator.gates.gates q.orchestrator.gates.gates
  store : Option.Rel (RunStore.Notes a) p.orchestrator.store q.orchestrator.store
  schedulers : ∀ k s, p.scheduler? k = some s → s.run.id ≠ a →
    ∃ effects, q.scheduler? k = some { s with effects }

theorem notes_refl (a : String) (store : Option RunStore) :
    Option.Rel (RunStore.Notes a) store store := by
  cases store with
  | none => exact .none
  | some st => exact .some (.refl a st)

theorem notes_trans {o o' o'' : Option RunStore} (h : Option.Rel (RunStore.Notes a) o o')
    (h' : Option.Rel (RunStore.Notes a) o' o'') : Option.Rel (RunStore.Notes a) o o'' := by
  cases h with
  | none => exact h'
  | some h =>
    cases h' with
    | some h' => exact .some (h.trans h')

/-- Nothing has happened but to other parts of the host. -/
theorem confined_of_same (a : String) (ho : q.orchestrator = p.orchestrator)
    (hs : q.sessions = p.sessions) : Confined a p q := by
  refine ⟨ho ▸ .none, ho ▸ notes_refl a _, fun k s hk _ => ⟨s.effects, ?_⟩⟩
  rw [← hk, scheduler?, scheduler?, session?, session?, hs]

theorem Confined.refl (a : String) (p : Host) : Confined a p p := confined_of_same a rfl rfl

theorem Confined.trans (h : Confined a p q) (h' : Confined a q r) : Confined a p r := by
  refine ⟨h.gates.trans h'.gates, notes_trans h.store h'.store, fun k s hk hne => ?_⟩
  obtain ⟨effects, hq⟩ := h.schedulers k s hk hne
  obtain ⟨effects', hr⟩ := h'.schedulers k _ hq hne
  exact ⟨effects', hr⟩

/-- The gate table takes gates of the run. -/
theorem confined_gates {table : GateTable Nat}
    (h : Puts a p.orchestrator.gates.gates table.gates) :
    Confined a p { p with orchestrator := { p.orchestrator with gates := table } } :=
  ⟨h, notes_refl a _, fun _ s hk _ => ⟨s.effects, hk⟩⟩

/-- The scheduler of a session of the run becomes another one. -/
theorem confined_putSession {session new : Session} (h : p.session? key = some session)
    (own : ∀ s, session.scheduler = some s → s.run.id = a) :
    Confined a p (p.putSession key new) := by
  refine ⟨.none, notes_refl a _, fun k s hk hne => ⟨s.effects, ?_⟩⟩
  rw [scheduler?_putSession h]
  split
  · rename_i hsame
    subst hsame
    rw [scheduler?, h] at hk
    exact absurd (own s hk) hne
  · exact hk

theorem confined_journal (p : Host) (key : Nat) {g : Gate} (own : g.runId = a) :
    Confined a p (p.journal key (.gate g)) := by
  have hnotes : Confined a p { p with orchestrator := { p.orchestrator with
      store := p.orchestrator.store.map fun st => st.apply p.now (.gate g) } } := by
    refine ⟨.none, ?_, fun _ s hk _ => ⟨s.effects, hk⟩⟩
    dsimp only
    cases p.orchestrator.store with
    | none => exact .none
    | some st => exact .some (st.notes_recordGate own)
  unfold journal
  split
  · exact .refl a p
  · exact .refl a p
  · exact hnotes

/-- A decided gate that listeners are told of concerns its run only: no other scheduler takes
notice. -/
theorem confined_tell (p : Host) (key : Nat) {g : Gate} (own : g.runId = a) :
    Confined a p (p.tell key g) := by
  unfold tell
  split
  · exact confined_of_same a rfl rfl
  · split
    · exact .refl a p
    · rename_i session hsession
      split
      · exact .refl a p
      · rename_i s hs
        dsimp only
        unfold hear
        by_cases hrun : g.runId = s.run.id
        · -- a session of the run: its scheduler hears of the gate and writes it down
          rw [if_pos hrun]
          have hown : ∀ s', session.scheduler = some s' → s'.run.id = a := by
            intro s' hs'
            rw [hs] at hs'
            cases hs'
            exact hrun.symm.trans own
          exact ((confined_putSession hsession hown).trans (confined_journal _ key own)).trans
            (confined_of_same a rfl rfl)
        · -- a session of another run: its scheduler stays as it is
          rw [if_neg hrun]
          refine ⟨.none, notes_refl a _, fun k s' hk _ => ?_⟩
          have hput := scheduler?_putSession hsession
            { session with scheduler := some { s with effects := [] } } k
          by_cases hsame : k = key
          · subst hsame
            rw [scheduler?, hsession, Option.bind_some, hs] at hk
            cases hk
            exact ⟨[], hput.trans (if_pos rfl)⟩
          · exact ⟨s'.effects, (hput.trans (if_neg hsame)).trans hk⟩

theorem confined_tellAll (p : Host) {notices : List (Nat × Gate)}
    (h : ∀ n ∈ notices, n.2.runId = a) : Confined a p (p.tellAll notices) := by
  induction notices generalizing p with
  | nil => exact .refl a p
  | cons n notices ih =>
    have hone : Confined a p (p.tell n.1 n.2) := confined_tell p n.1 (h n List.mem_cons_self)
    exact hone.trans (ih _ fun n hn => h n (List.mem_cons_of_mem _ hn))

/-! ## What belongs to a run -/

/-- Something is done with the gate table, and all listeners are told. -/
def operate {α : Type} (p : Host) (change : GateChange Nat α) : Host :=
  { p with orchestrator := { p.orchestrator with gates := change.table } }.tellAll change.notices

theorem confined_operate {α : Type} {change : GateChange Nat α}
    (h : p.orchestrator.gates.Concerns a change.table change.notices) :
    Confined a p (p.operate change) :=
  (confined_gates h.puts).trans (confined_tellAll _ h.told)

theorem decide_eq_operate {gate actor comment : String} {d : Decision} :
    (∃ fault, p.decide gate d actor comment = (.error fault, p)) ∨
      ∃ change, p.orchestrator.gates.decide gate d actor comment p.now = .ok change ∧
        p.decide gate d actor comment = (.ok change.answer, p.operate change) := by
  unfold decide
  split
  · exact Or.inl ⟨_, rfl⟩
  · rename_i change h
    exact Or.inr ⟨change, h, rfl⟩

/-- An operation that belongs to a run: someone asks for a gate of the run, decides one, closes
them, or puts one back; or a scheduler of the run rejects the gates that have waited too long. -/
inductive Act (a : String) (p : Host) : Host → Prop
  | request (name : String) (trigger : Option Trigger) (release : Option (List (String × String)))
      (now : Time) : Act a p (p.operate (p.orchestrator.gates.request name a trigger release now))
  | decide (name : String) (d : Decision) (actor comment : String) :
      Act a p (p.decide (gateId a name) d actor comment).2
  | closeRun (now : Time) : Act a p (p.operate (p.orchestrator.gates.closeRun a now))
  | restore (g : Gate) (own : g.runId = a) :
      Act a p (p.operate { table := p.orchestrator.gates.restore g, answer := () })
  | reopen (g : Gate) (own : g.runId = a) (now : Time) :
      Act a p (p.operate { table := p.orchestrator.gates.reopen g now, answer := () })
  | timeout {key : Nat} {s₀ s : Scheduler} {table : GateTable Nat} (poised : Poised s₀)
      (leads : Leads s₀ s) (own : s.run.id = a)
      (holds : p.scheduler? key = some { s with effects := [], gates := table }) :
      Act a p (p.withScheduler key fun s => ((), s.expireGates)).2

/-- One thing that the scheduler of a session has done is carried out. -/
def carry (key : Nat) (p : Host) (e : Effect) : Host :=
  let p := { p with flight := flightAfter p.flight key e }
  match e with
  | .notice k g => p.tell k g
  | .journal w => { p.journal key w with log := p.log ++ [(key, e)] }
  | _ => { p with log := p.log ++ [(key, e)] }

theorem absorb_eq {session : Session} (h : p.session? key = some session) (s : Scheduler) :
    p.absorb key s = s.effects.foldl (carry key)
      { p.putSession key { session with scheduler := some { s with effects := [], gates := {} } } with
        orchestrator := { p.orchestrator with gates := s.gates } } := by
  unfold absorb
  rw [h]
  rfl

theorem confined_carry (key : Nat) {effects : List Effect} (h : ∀ e ∈ effects, About a e)
    (p : Host) : Confined a p (effects.foldl (carry key) p) := by
  induction effects generalizing p with
  | nil => exact .refl a p
  | cons e effects ih =>
    have hflight : Confined a p { p with flight := flightAfter p.flight key e } :=
      confined_of_same a rfl rfl
    have hone : Confined a p (carry key p e) := by
      obtain ⟨g, hg, rfl | ⟨k, rfl⟩⟩ := h e List.mem_cons_self
      · exact (hflight.trans (confined_journal _ key hg)).trans (confined_of_same a rfl rfl)
      · exact hflight.trans (confined_tell _ k hg)
    exact hone.trans (ih (fun e hm => h e (List.mem_cons_of_mem _ hm)) _)

/-- What a scheduler of a run has done about gates is carried out. -/
theorem confined_absorb {s t : Scheduler} (hs : p.scheduler? key = some s) (own : s.run.id = a)
    (hblank : s.effects = []) (h : Minds a (p.lend s) t) : Confined a p (p.absorb key t) := by
  obtain ⟨notes, he, hnotes⟩ := h.effects
  have habout : ∀ e ∈ t.effects, About a e := by
    rw [he, show (p.lend s).effects = [] from hblank]
    simpa using hnotes
  obtain ⟨session, hsession, hsched⟩ := Option.bind_eq_some_iff.1 hs
  have hput : Confined a p (p.putSession key
      { session with scheduler := some { t with effects := [], gates := {} } }) := by
    refine confined_putSession hsession fun s' hs' => ?_
    rw [hsched] at hs'
    cases hs'
    exact own
  have hgates : Confined a (p.putSession key
      { session with scheduler := some { t with effects := [], gates := {} } }) _ :=
    confined_gates h.puts
  rw [absorb_eq hsession]
  exact (hput.trans hgates).trans (confined_carry key habout _)

/-- What belongs to a run concerns that run only. -/
theorem Act.confined (h : Act a p q) (ha : Slashless a) (hp : Plain p.orchestrator.gates.gates) :
    Confined a p q := by
  cases h with
  | request => exact confined_operate (GateTable.concerns_request _ _ _ _ _ _)
  | decide name d actor comment =>
    rcases @decide_eq_operate p (gateId a name) actor comment d with ⟨_, he⟩ | ⟨_, hc, he⟩
    · rw [he]
      exact .refl a p
    · rw [he]
      exact confined_operate (GateTable.concerns_decide ha hp hc)
  | closeRun => exact confined_operate (GateTable.concerns_closeRun _ ha hp _)
  | restore g own => exact confined_operate (GateTable.concerns_put own)
  | reopen g own => exact confined_operate (GateTable.concerns_put own)
  | @timeout key s₀ s table poised leads own holds =>
    have hminds : Minds a (p.lend { s with effects := [], gates := table })
        (p.lend { s with effects := [], gates := table }).expireGates :=
      minds_expireGates ha hp own ((leads.waitsOwn poised).of_subset rfl fun _ hw => hw)
    have hexpire : (p.withScheduler key fun s => ((), s.expireGates)).2 =
        p.absorb key (p.lend { s with effects := [], gates := table }).expireGates := by
      rw [withScheduler, show (p.session? key).bind (·.scheduler) = _ from holds]
    rw [hexpire]
    exact confined_absorb holds own rfl hminds

/-! ## What the others have -/

/-- The rows of a run are the same in two stores. -/
structure SameRows (b : String) (st st' : RunStore) : Prop where
  gates : st'.gates.filter (·.2.runId = b) = st.gates.filter (·.2.runId = b)
  gate : ∀ name, st'.gate? (gateId b name) = st.gate? (gateId b name)
  runs : st'.runs = st.runs
  stages : st'.stages = st.stages
  releases : st'.releases = st.releases

/-- A run has the same on two hosts: its gates, those that wait, their statuses, what its schedulers
have been told and not handled yet, and its rows in the store. -/
structure Spared (b : String) (p q : Host) : Prop where
  gates : q.orchestrator.gates.gatesOf b = p.orchestrator.gates.gatesOf b
  held : ∀ name, q.orchestrator.gates.get? (gateId b name) =
    p.orchestrator.gates.get? (gateId b name)
  pending : q.orchestrator.gates.pending (some b) = p.orchestrator.gates.pending (some b)
  statuses : q.orchestrator.gates.statuses b = p.orchestrator.gates.statuses b
  queues : ∀ k s, p.scheduler? k = some s → s.run.id = b →
    ∃ s', q.scheduler? k = some s' ∧ s'.run = s.run ∧ s'.queue = s.queue
  rows : Option.Rel (SameRows b) p.orchestrator.store q.orchestrator.store

theorem Spared.refl (b : String) (p : Host) : Spared b p p := by
  refine ⟨rfl, fun _ => rfl, rfl, rfl, fun k s hk _ => ⟨s, hk, rfl, rfl⟩, ?_⟩
  cases p.orchestrator.store with
  | none => exact .none
  | some st => exact .some ⟨rfl, fun _ => rfl, rfl, rfl, rfl⟩

theorem Spared.trans (h : Spared b p q) (h' : Spared b q r) : Spared b p r where
  gates := h'.gates.trans h.gates
  held := fun name => (h'.held name).trans (h.held name)
  pending := h'.pending.trans h.pending
  statuses := h'.statuses.trans h.statuses
  queues := by
    intro k s hk hb
    obtain ⟨s', hk', hrun, hqueue⟩ := h.queues k s hk hb
    obtain ⟨s'', hk'', hrun', hqueue'⟩ := h'.queues k s' hk' (hrun ▸ hb)
    exact ⟨s'', hk'', hrun'.trans hrun, hqueue'.trans hqueue⟩
  rows := by
    have hrows := h.rows
    have hrows' := h'.rows
    generalize p.orchestrator.store = o, q.orchestrator.store = o', r.orchestrator.store = o''
      at hrows hrows' ⊢
    cases hrows with
    | none => exact hrows'
    | some hone =>
      cases hrows' with
      | some htwo =>
        exact .some ⟨htwo.gates.trans hone.gates, fun name => (htwo.gate name).trans (hone.gate name),
          htwo.runs.trans hone.runs, htwo.stages.trans hone.stages,
          htwo.releases.trans hone.releases⟩

/-- In the table and in the store each gate stands under its own identity, and no run has a slash in
its name. -/
structure Regular (p : Host) : Prop where
  table : Plain p.orchestrator.gates.gates
  rows : ∀ st ∈ p.orchestrator.store, Plain st.gates

theorem Confined.regular (h : Confined a p q) (ha : Slashless a) (hp : Regular p) : Regular q := by
  refine ⟨h.gates.plain ha hp.table, fun st' hst' => ?_⟩
  have hstore := h.store
  have hrows := hp.rows
  generalize p.orchestrator.store = o at hstore hrows
  rw [Option.mem_def.1 hst'] at hstore
  cases hstore with
  | some hnotes => exact hnotes.puts.plain ha (hrows _ rfl)

/-- What concerns one run only leaves the others what they have. -/
theorem Confined.spared (h : Confined a p q) (ha : Slashless a) (hb : Slashless b) (hab : a ≠ b)
    (hp : Regular p) : Spared b p q := by
  have hq := h.regular ha hp
  have hgates : q.orchestrator.gates.gatesOf b = p.orchestrator.gates.gatesOf b :=
    h.gates.others ha hp.table hab
  refine ⟨hgates, fun name => ?_, ?_, ?_, fun k s hk hrun => ?_, ?_⟩
  · have hfound := hq.table.getPair?_eq hb name
    rw [show q.orchestrator.gates.gates.filter _ = _ from hgates] at hfound
    exact hfound.trans (hp.table.getPair?_eq hb name).symm
  · rw [GateTable.pending_eq, GateTable.pending_eq, hgates]
  · rw [GateTable.statuses_eq, GateTable.statuses_eq, hgates]
  · obtain ⟨effects, hq⟩ := h.schedulers k s hk (hrun ▸ hab.symm)
    exact ⟨_, hq, rfl, rfl⟩
  · have hstore := h.store
    have hrows := hp.rows
    generalize p.orchestrator.store = o, q.orchestrator.store = o' at hstore hrows ⊢
    cases hstore with
    | none => exact .none
    | @some st st' hnotes =>
      have hplain := hrows st rfl
      have hsame := hnotes.puts.others ha hplain hab
      refine .some ⟨hsame, fun name => ?_, hnotes.runs, hnotes.stages, hnotes.releases⟩
      have hfound := (hnotes.puts.plain ha hplain).getPair?_eq hb name
      rw [hsame] at hfound
      exact hfound.trans (hplain.getPair?_eq hb name).symm

/-! ## Whatever has happened before -/

/-- A host on which no run has a slash in its name, after anything that may have happened: what
belongs to runs, and whatever else leaves the gates in the table alone. Other hosts may write rows
of gates meanwhile. -/
inductive Lives : Host → Prop
  | new {p : Host} (gates : p.orchestrator.gates.gates = [])
      (rows : ∀ st ∈ p.orchestrator.store, st.gates = []) : Lives p
  | act {p q : Host} {a : String} (h : Lives p) (slashless : Slashless a) (act : Act a p q) : Lives q
  | elsewhere {p q : Host} (h : Lives p)
      (gates : q.orchestrator.gates.gates = p.orchestrator.gates.gates)
      (rows : ∀ st' ∈ q.orchestrator.store, ∃ st ∈ p.orchestrator.store, ∀ e ∈ st'.gates,
        e ∈ st.gates ∨ e.1 = e.2.id ∧ Slashless e.2.runId) : Lives q

theorem Lives.regular (h : Lives p) : Regular p := by
  induction h with
  | new gates rows =>
    refine ⟨by simp [gates, Plain], fun st hst => ?_⟩
    simp [rows st hst, Plain]
  | act _ slashless act ih => exact (act.confined slashless ih.table).regular slashless ih
  | elsewhere _ gates rows ih =>
    refine ⟨gates ▸ ih.table, fun st' hst' e he => ?_⟩
    obtain ⟨st, hst, hall⟩ := rows st' hst'
    exact (hall e he).elim (ih.rows st hst e) id

/-- Runs without a slash in their names have no gate in common, whatever the names of the gates are.
Whatever is done for other runs, in any order, a run keeps its gates as they are, and what is seen
of them; nothing reaches its schedulers, and none of its rows changes. -/
theorem runs_that_share_a_table_leave_each_other_alone {p q : Host} {b : String} (lives : Lives p)
    (slashless : Slashless b)
    (acts : Relation.ReflTransGen (fun p q => ∃ a, a ≠ b ∧ Slashless a ∧ Act a p q) p q) :
    (∀ a, a ≠ b → Slashless a → ∀ name name', gateId a name ≠ gateId b name') ∧ Spared b p q := by
  refine ⟨fun a hab ha name name' h => hab (gateId_inj ha slashless h).1, ?_⟩
  have hboth : Regular q ∧ Spared b p q := by
    induction acts with
    | refl => exact ⟨lives.regular, .refl b p⟩
    | tail _ hact ih =>
      obtain ⟨a, hab, ha, hact⟩ := hact
      have hone := hact.confined ha ih.1.table
      exact ⟨hone.regular ha ih.1, ih.2.trans (hone.spared ha slashless hab ih.1)⟩
  exact hboth.2

/-- Two runs of one workflow with a gate of the same name, each with its session. -/
def twoRuns : Host :=
  let p : Host := { orchestrator := { gates := { listeners := [0, 1, 2] }, store := some {} } }
  let p := p.operate (p.orchestrator.gates.request "eu/prod" "r1" none none 1)
  let p := p.operate (p.orchestrator.gates.request "eu/prod" "r2" none none 2)
  { p with sessions := [
      { runId := "r1", launch := .start shipWorkflow {} none, scheduler := some shipWaiting },
      { runId := "r2", launch := .start shipWorkflow {} none
        scheduler := some { shipWaiting with run := { shipWaiting.run with id := "r2" }, self := 2 } }] }

/-- The gate of the first run is approved. -/
def oneApproved : Host := (twoRuns.decide (gateId "r1" "eu/prod") (.status .approved) "ann" "").2

theorem lives_twoRuns : Lives twoRuns := by
  have hnew : Lives { orchestrator := { gates := { listeners := [0, 1, 2] }, store := some {} } } :=
    .new rfl fun st hst => by cases hst; rfl
  refine .elsewhere ((hnew.act (a := "r1") (by decide) (.request "eu/prod" none none 1)).act
    (a := "r2") (by decide) (.request "eu/prod" none none 2)) rfl fun st hst => ?_
  exact ⟨st, hst, fun e he => Or.inl he⟩

/-- The first run hears of its gate, and its row is decided. The second run has what it had. -/
theorem the_approval_reaches_the_first_run_alone :
    Lives twoRuns ∧ Spared "r2" twoRuns oneApproved ∧
      (oneApproved.orchestrator.gates.pending).map Gate.id = ["r2/eu/prod"] ∧
      (oneApproved.sessions.filterMap (·.scheduler)).map (fun s => (s.run.id, s.queue.length)) =
        [("r1", 1), ("r2", 0)] ∧
      (oneApproved.orchestrator.store.map fun st => st.gates.map fun e => (e.1, e.2.status)) =
        some [("r1/eu/prod", .approved)] := by
  have hspared := (runs_that_share_a_table_leave_each_other_alone (b := "r2") lives_twoRuns
    (by decide) (.single ⟨"r1", by decide, by decide,
      .decide "eu/prod" (.status .approved) "ann" ""⟩)).2
  exact ⟨lives_twoRuns, hspared, by decide +kernel, by decide +kernel, by decide +kernel⟩

end Host

end GatedPipeline
