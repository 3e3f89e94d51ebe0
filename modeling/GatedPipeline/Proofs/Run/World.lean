-- Runs in a world where bodies, gates and the release source always answer
-- alike. Whenever the release decision is asked for there, it is the same.
import GatedPipeline.Proofs.Run.Calm
import GatedPipeline.Proofs.Run.Reference
import GatedPipeline.Proofs.Run.Visible
namespace GatedPipeline.World
open GatedPipeline.Scheduler

variable (w : World)

/-! ## Runs in a world -/

/-- The source answers as the world says, however often it is read. -/
def Settles (source : VersionSource) : Prop :=
  ∀ n, match w.outcome with
    | some o => ({ source, reads := n } : ReleaseEngine).readSource = .ok o
    | none => ∃ fault, ({ source, reads := n } : ReleaseEngine).readSource = .error fault

/-- The run has the release source of the world, no failure takes others along, and no condition
mentions the tag of the release. -/
structure Hosts (s : Scheduler) : Prop where
  lenient : s.Lenient
  source : ∀ e, s.engine = some e → w.Settles e.source
  engine : s.engine = none → w.outcome = none
  conditions : ∀ i, s.graph.instance? i.id = some i → ∀ text refs,
    i.template.condition = some text → Condition.outputReferences text = .ok refs →
    (runScope, "release_tag") ∉ refs

/-- The world hosts the run, and the release decision, once it is made, is that of the world. -/
structure Suits (s : Scheduler) : Prop extends w.Hosts s where
  decision : ∀ o, s.decision? = some o → w.outcome = some o

/-- The gates of the instances are decided as the world says. -/
def Decides (s : Scheduler) : Prop :=
  ∀ i, s.graph.instance? i.id = some i → ∀ name, i.gateName.filter (· ≠ "") = some name →
    ∀ gate, s.gates.get? (gateId s.run.id name) = some gate → gate.status ≠ .pending →
      (gate.status = .approved ↔ w.approves name = true)

/-- What the scheduler is told agrees with the world: bodies report as they do there, and gates are
decided so. -/
structure Holds (s : Scheduler) : Prop where
  reports : ∀ id r, .done id r ∈ s.queue → ∃ i inputs, s.graph.instance? id = some i ∧
    .dispatched id inputs ∈ s.effects ∧ r = w.body i inputs
  gates : w.Decides s

/-- The steps of a run in a world, in any order. -/
def Within : Scheduler → Scheduler → Prop :=
  Relation.ReflTransGen fun s t => s.Step t ∧ w.Holds t

variable {w} {s₀ s t : Scheduler}

theorem Within.leads (h : w.Within s₀ s) : Leads s₀ s := by
  induction h with
  | refl => exact Leads.refl s₀
  | tail _ hs ih => exact Leads.snoc ih hs.1

theorem Suits.steady (h : w.Suits s) (hs : Steady s t) : w.Suits t where
  lenient := h.lenient.steady hs
  source := by
    intro e he
    have hsource := hs.source
    rw [he] at hsource
    obtain ⟨e', he', hsame⟩ := Option.map_eq_some_iff.1 hsource.symm
    rw [← show e'.source = e.source from hsame]
    exact h.source e' he'
  engine := by
    intro he
    have hsource := hs.source
    rw [he] at hsource
    exact h.engine (Option.map_eq_none_iff.1 hsource.symm)
  decision := by
    intro o ho
    rcases hs.made ho with ho | ⟨⟨e, n, he, hread⟩, _⟩
    · exact h.decision o ho
    · have hsettles := h.source e he n
      rw [show ({ source := e.source, reads := n } : ReleaseEngine).readSource = .ok o from hread]
        at hsettles
      split at hsettles
      · rename_i o' ho'
        rw [ho', Except.ok.inj hsettles]
      · obtain ⟨fault, hfault⟩ := hsettles
        cases hfault
  conditions := by
    intro i hi
    rw [show t.graph = s.graph from hs.graph] at hi
    exact h.conditions i hi

/-- A gate that is decided later on as the world says was not decided otherwise before. -/
theorem Decides.steady (h : w.Decides t) (hs : Steady s t) : w.Decides s := by
  intro i hi name hn gate hget hdecided
  obtain ⟨gate', hget', hsame⟩ := hs.keeps _ gate ⟨name, rfl⟩ hget
  obtain rfl := hsame hdecided
  refine h i ?_ name hn gate' (by rw [hs.runId]; exact hget') hdecided
  rwa [show t.graph = s.graph from hs.graph]

/-! ## What is decided -/

theorem decide_of_settles {engine : ReleaseEngine} (hs : w.Settles engine.source)
    (hd : ∀ o, engine.outcome = some o → w.outcome = some o) :
    match w.outcome with
    | some o => engine.decide.1 = .ok o
    | none => ∃ fault, engine.decide.1 = .error fault := by
  have hread := hs engine.reads
  unfold ReleaseEngine.decide
  rcases ho : engine.outcome with _ | o
  · rcases hw : w.outcome with _ | o
    · rw [hw] at hread
      obtain ⟨fault, hfault⟩ := hread
      refine ⟨fault, ?_⟩
      rw [show engine.readSource = .error fault from hfault]
    · rw [hw] at hread
      dsimp only
      rw [show engine.readSource = .ok o from hread]
  · rw [hd o ho]

/-- The release decision is that of the world. -/
theorem decideRelease_of_suits (hs : w.Suits s) (hb : Bare s) (ht : s.fatal = false) :
    match w.outcome with
    | some o => s.decideRelease.1 = .ok o
    | none => ∃ fault, s.decideRelease.1 = .error fault := by
  rcases he : s.engine with _ | engine
  · rw [hs.engine he, Scheduler.decideRelease, he]
    exact ⟨.noEngine, rfl⟩
  · have hdecided := decide_of_settles (hs.source engine he) fun o ho =>
      hs.decision o (by rw [decision?, he]; exact ho)
    rw [hb.decideRelease_eq ht he]
    rcases hw : w.outcome with _ | o
    · rw [hw] at hdecided
      obtain ⟨fault, hfault⟩ := hdecided
      rw [hfault]
      exact ⟨.source fault, rfl⟩
    · rw [hw] at hdecided
      rw [show engine.decide.1 = .ok o from hdecided]

/-- The facts of the release decision are those of the world. -/
theorem releaseFacts_of_suits (hs : w.Suits s) (hb : Bare s) (ht : s.fatal = false) :
    s.releaseFacts.1 = w.facts ∨
      ∃ m m', s.releaseFacts.1 = .error m ∧ w.facts = .error m' := by
  have hdecided := decideRelease_of_suits hs hb ht
  unfold releaseFacts facts
  rcases hw : w.outcome with _ | o
  · rw [hw] at hdecided
    obtain ⟨fault, hfault⟩ := hdecided
    refine Or.inr ?_
    split
    · exact ⟨_, _, rfl, rfl⟩
    · split
      · rename_i heq
        rw [heq] at hfault
        cases hfault
      · exact ⟨_, _, rfl, rfl⟩
  · rw [hw] at hdecided
    refine Or.inl ?_
    rw [if_neg (by
      rw [Option.isNone_iff_eq_none]
      intro hnone
      rw [hs.engine hnone] at hw
      cases hw)]
    split
    · rename_i heq
      rw [heq] at hdecided
      rw [Except.ok.inj hdecided]
    · rename_i heq
      rw [heq] at hdecided
      cases hdecided

end GatedPipeline.World
