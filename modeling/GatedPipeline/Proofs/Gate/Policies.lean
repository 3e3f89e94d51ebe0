-- Where the policy comes from that a gate is asked about. All runs of an
-- orchestrator share one list of policies, those of its workflows among them, and
-- the first one whose pattern fits is asked. So what counts is which workflows came
-- before, and in which order; and that is all that another run can do to a gate.
import GatedPipeline.Proofs.Run.Overtake
namespace GatedPipeline
open GatedPipeline.Text

/-! ## The first policy that fits -/

/-- The policy that a workflow brings along for a gate: the first one whose pattern fits. -/
def Workflow.policyFor? (w : Workflow) (name : String) : Option Policy :=
  (w.approvals.find? fun (pattern, _) => globMatches pattern name).map (·.2.policy)

/-- Something that brings policies: a policy that someone attaches to the gate table, or a workflow
of which a run is started or resumed. -/
inductive Origin where
  | outside (pattern : String) (p : Policy)
  | workflow (w : Workflow)

def Origin.policyFor? (name : String) : Origin → Option Policy
  | .outside pattern p => if globMatches pattern name then some p else none
  | .workflow w => w.policyFor? name

namespace GateTable

variable {ι : Type} {t u : GateTable ι} {name : String}

theorem policyFor?_attach (t : GateTable ι) (pattern : String) (p : Policy) (name : String) :
    (t.attach pattern p).policyFor? name =
      (t.policyFor? name).or (if globMatches pattern name then some p else none) := by
  unfold policyFor? attach
  rw [List.find?_append, Option.map_or]
  by_cases h : globMatches pattern name = true <;> simp [h]

theorem policyFor?_congr (h : t.policies = u.policies) (name : String) :
    t.policyFor? name = u.policyFor? name := by rw [policyFor?, policyFor?, h]

/-- Where a pattern fits some policy is found. -/
theorem policyFor?_ne_none {pattern : String} {p : Policy} (h : (pattern, p) ∈ t.policies)
    (fits : globMatches pattern name = true) : t.policyFor? name ≠ none := by
  rw [policyFor?, Ne, Option.map_eq_none_iff, List.find?_eq_none]
  exact fun hnone => hnone _ h fits

/-! ## What a run sees of the table -/

variable {run : String} {trigger : Option Trigger} {release : Option (List (String × String))}
  {now : Time} {g : Gate}

/-- The gates of a run, in the order in which they came. -/
def gatesOf (t : GateTable ι) (run : String) : List (String × Gate) :=
  t.gates.filter (·.2.runId = run)

/-- No gate of another run stands in the place of one of this run. -/
def Clear (t : GateTable ι) (run : String) : Prop :=
  ∀ name g, t.get? (gateId run name) = some g → g.runId = run

/-- A run sees the same of two tables, but for the policies. -/
structure Alike (run : String) (t u : GateTable ι) : Prop where
  same : t.gatesOf run = u.gatesOf run
  clear : t.Clear run
  clear' : u.Clear run

theorem Clear.get?_eq (h : t.Clear run) (name : String) :
    t.get? (gateId run name) = getPair? (gateId run name) (t.gatesOf run) :=
  (getPair?_filter fun g hg => by simpa using h name g hg).symm

theorem Alike.get?_eq (h : Alike run t u) (name : String) :
    t.get? (gateId run name) = u.get? (gateId run name) := by
  rw [h.clear.get?_eq, h.clear'.get?_eq, h.same]

theorem statuses_eq (t : GateTable ι) (run : String) :
    t.statuses run = ofPairs (((t.gatesOf run).map (·.2)).map fun g => (g.name, g.status)) := by
  rw [statuses, all, gatesOf, List.filter_map]
  rfl

theorem Clear.putPair (h : t.Clear run) (hg : g.runId = run) (id : String) :
    Clear { t with gates := putPair id g t.gates } run := by
  intro name g' hg'
  rw [get?, getPair?_putPair] at hg'
  split at hg'
  · cases hg'
    exact hg
  · exact h name g' hg'

/-- A gate of the run is put into both tables. -/
theorem Alike.putPair (h : Alike run t u) (name : String) (hg : g.runId = run) :
    Alike run { t with gates := putPair (gateId run name) g t.gates }
      { u with gates := putPair (gateId run name) g u.gates } where
  same := by
    have hown : ∀ {t : GateTable ι}, t.Clear run →
        gatesOf { t with gates := GatedPipeline.putPair (gateId run name) g t.gates } run =
          GatedPipeline.putPair (gateId run name) g (t.gatesOf run) := fun h =>
      filter_putPair_inside (by simpa using hg) fun g' hg' => by simpa using h name g' hg'
    rw [hown h.clear, hown h.clear', h.same]
  clear := h.clear.putPair hg _
  clear' := h.clear'.putPair hg _

theorem policies_request (t : GateTable ι) (name run : String) (trigger : Option Trigger)
    (release : Option (List (String × String))) (now : Time) :
    (t.request name run trigger release now).table.policies = t.policies := by
  unfold request
  split
  · rfl
  · dsimp only
    split
    · split <;> rfl
    · rfl

theorem policies_decideAs {id actor comment : String} {status : GateStatus}
    {c : GateChange ι GateStatus} (h : t.decideAs id status actor comment now = .ok c) :
    c.table.policies = t.policies := by
  rcases decideAs_cases h with ⟨he, _⟩ | ⟨_, _, _, he, _⟩ <;> rw [he]

theorem policies_closeAll (ids : List String) (t : GateTable ι) (now : Time) :
    (t.closeAll now ids).table.policies = t.policies := by
  induction ids generalizing t with
  | nil => rfl
  | cons id ids ih =>
    unfold closeAll
    split
    · exact ih t
    · rename_i change hc
      exact (ih change.table).trans (policies_decideAs hc)

/-- A new gate that is asked for is put into the table as it is given, whether a policy has
approved it or not. -/
theorem request_of_none (h : t.get? (gateId run name) = none) :
    (t.request name run trigger release now).table =
      { t with gates :=
          putPair (gateId run name) (t.request name run trigger release now).answer t.gates } := by
  unfold request
  rw [h]
  dsimp only
  split
  · split
    · exact congrArg (fun gates => { t with gates }) (putPair_putPair (gateId run name) _ _ t.gates)
    · rfl
  · rfl

/-- A run that asks for a gate is given the same one, unless the policies for its name differ. -/
theorem Alike.answer_eq (h : Alike run t u) (hp : t.policyFor? name = u.policyFor? name) :
    (t.request name run trigger release now).answer =
      (u.request name run trigger release now).answer := by
  unfold GateTable.request
  rw [h.get?_eq name, hp]
  rcases u.get? (gateId run name) with _ | g
  · have hnew : Alike run (t.put { name, runId := run, requestedAt := now })
        (u.put { name, runId := run, requestedAt := now }) := h.putPair name rfl
    -- a policy sees the gates of the run and no others
    have hsees : ∀ trigger, (t.put { name, runId := run, requestedAt := now }).policyRequest name
        run trigger release = (u.put { name, runId := run, requestedAt := now }).policyRequest name
          run trigger release := fun trigger => by
      rw [policyRequest, policyRequest, statuses_eq, statuses_eq, hnew.same]
    dsimp only
    split
    · rw [hsees]
      split <;> rfl
    · rfl
  · rfl

/-- If it is given the same one, it sees the same of the tables afterwards. -/
theorem Alike.request (h : Alike run t u)
    (same : (t.request name run trigger release now).answer =
      (u.request name run trigger release now).answer) :
    Alike run (t.request name run trigger release now).table
      (u.request name run trigger release now).table := by
  rcases hold : u.get? (gateId run name) with _ | g
  · have hown : (u.request name run trigger release now).answer.runId = run := by
      rcases (request_spec u name run trigger release now).2.2.2 with ⟨hsome, _⟩ | ⟨_, hrun, _⟩
      · cases hold.symm.trans hsome
      · exact hrun
    rw [request_of_none hold, request_of_none ((h.get?_eq name).trans hold), same]
    exact h.putPair name hown
  · unfold GateTable.request
    rw [h.get?_eq name, hold]
    exact h

/-- A gate of the run is decided in both tables, or in none. -/
theorem Alike.decideAs (h : Alike run t u) (name : String) (status : GateStatus)
    (actor comment : String) (now : Time) :
    (∃ c c', t.decideAs (gateId run name) status actor comment now = .ok c ∧
      u.decideAs (gateId run name) status actor comment now = .ok c' ∧ Alike run c.table c'.table) ∨
    ((∃ fault, t.decideAs (gateId run name) status actor comment now = .error fault) ∧
      ∃ fault, u.decideAs (gateId run name) status actor comment now = .error fault) := by
  unfold GateTable.decideAs
  rw [h.get?_eq name]
  rcases hold : u.get? (gateId run name) with _ | g
  · exact Or.inr ⟨⟨_, rfl⟩, _, rfl⟩
  · have hg : g.runId = run := h.clear' name g hold
    dsimp only
    split
    · exact Or.inl ⟨_, _, rfl, rfl, h.putPair name hg⟩
    · exact Or.inl ⟨_, _, rfl, rfl, h⟩

/-! ## The gates of a run in the course of events -/

/-- What is done about a gate of the run: the run asks for it, or someone decides it. -/
inductive Deal where
  | ask (name : String) (trigger : Option Trigger) (release : Option (List (String × String)))
      (now : Time)
  | decide (name : String) (status : GateStatus) (actor comment : String) (now : Time)

def Deal.about : Deal → String
  | .ask name .. | .decide name .. => name

/-- The table after it. -/
def deal (t : GateTable ι) (run : String) : Deal → GateTable ι
  | .ask name trigger release now => (t.request name run trigger release now).table
  | .decide name status actor comment now =>
    match t.decideAs (gateId run name) status actor comment now with
    | .ok c => c.table
    | .error _ => t

/-- Others do what they like with their gates, but nobody attaches a policy. -/
structure Away (run : String) (t t' : GateTable ι) : Prop where
  own : t'.gatesOf run = t.gatesOf run
  clear : t.Clear run → t'.Clear run
  policies : t'.policies = t.policies

theorem Away.refl (run : String) (t : GateTable ι) : Away run t t := ⟨rfl, id, rfl⟩

/-- What happens during a run: something is done about one of its gates, or something brings
policies. -/
inductive Happening where
  | deal (d : Deal)
  | brings (x : Origin)

/-- What is done about the gates of the run, in order. -/
def deals (hs : List Happening) : List Deal :=
  hs.filterMap fun
    | .deal d => some d
    | .brings _ => none

/-- What happens during a run, one after the other, and how the gate stands then each time that
something is done about it. -/
inductive Course (run : String) : GateTable ι → List Happening → List (Option Gate) → Prop
  | done (t : GateTable ι) : Course run t [] []
  | deal {t t' : GateTable ι} {hs : List Happening} {gs : List (Option Gate)} (d : Deal)
      (away : Away run t t') (rest : Course run (t'.deal run d) hs gs) :
      Course run t (.deal d :: hs) ((t'.deal run d).get? (gateId run d.about) :: gs)
  | brings {t t' : GateTable ι} {hs : List Happening} {gs : List (Option Gate)} (x : Origin)
      (own : t'.gatesOf run = t.gatesOf run) (clear : t.Clear run → t'.Clear run)
      (policies : ∀ name, t'.policyFor? name = (t.policyFor? name).or (x.policyFor? name))
      (rest : Course run t' hs gs) : Course run t (.brings x :: hs) gs

theorem policies_deal (t : GateTable ι) (run : String) (d : Deal) :
    (t.deal run d).policies = t.policies := by
  cases d with
  | ask name trigger release now => exact policies_request t name run trigger release now
  | decide name status actor comment now =>
    unfold deal
    dsimp only
    split
    · rename_i c hc
      exact policies_decideAs hc
    · rfl

/-- What is done about a gate leaves it as it is in the other table, and all others too; or else the
run has asked for it, and the policies for its name differ. -/
theorem Alike.deal (h : Alike run t u) (d : Deal) :
    Alike run (t.deal run d) (u.deal run d) ∨
      (t.deal run d).get? (gateId run d.about) ≠ (u.deal run d).get? (gateId run d.about) ∧
        ∃ name trigger release now, d = .ask name trigger release now ∧
          t.policyFor? name ≠ u.policyFor? name := by
  cases d with
  | ask name trigger release now =>
    by_cases same : (t.request name run trigger release now).answer =
        (u.request name run trigger release now).answer
    · exact Or.inl (h.request same)
    · refine Or.inr ⟨?_, name, trigger, release, now, rfl, fun hp => same (h.answer_eq hp)⟩
      have ht := (request_spec t name run trigger release now).1
      have hu := (request_spec u name run trigger release now).1
      rw [GateTable.deal, GateTable.deal, Deal.about, ht, hu]
      exact fun heq => same (Option.some.inj heq)
  | decide name status actor comment now =>
    left
    unfold GateTable.deal
    rcases h.decideAs name status actor comment now with
      ⟨c, c', hc, hc', hcc⟩ | ⟨⟨_, hc⟩, _, hc'⟩
    · simp only [hc, hc']
      exact hcc
    · simp only [hc, hc']
      exact h

theorem Course.brings_of_gates {t' : GateTable ι} {hs : List Happening} {gs : List (Option Gate)}
    (x : Origin) (gates : t'.gates = t.gates)
    (policies : ∀ name, t'.policyFor? name = (t.policyFor? name).or (x.policyFor? name))
    (rest : Course run t' hs gs) : Course run t (.brings x :: hs) gs := by
  refine .brings x ?_ (fun h name g hg => h name g ?_) policies rest
  · rw [gatesOf, gatesOf, gates]
  · rwa [get?, ← gates]

/-- Someone attaches a policy. -/
theorem Course.attach {hs : List Happening} {gs : List (Option Gate)} (pattern : String)
    (p : Policy) (rest : Course run (t.attach pattern p) hs gs) :
    Course run t (.brings (.outside pattern p) :: hs) gs := by
  have hgates : (t.attach pattern p).gates = t.gates := rfl
  exact .brings_of_gates _ hgates (policyFor?_attach t pattern p) rest

theorem Alike.away {t' u' : GateTable ι} (h : Alike run t u) (ht : Away run t t')
    (hu : Away run u u') : Alike run t' u' :=
  ⟨by rw [ht.own, hu.own, h.same], ht.clear h.clear, hu.clear h.clear'⟩

/-- Of all that is in the table a run sees its own gates and the policies for their names. So if a
gate stands otherwise in one course than in the other, then the first one that does is one that the
run asks for, with another policy for its name. -/
theorem Alike.course {hs : List Happening} {gs gs' : List (Option Gate)} {n : Nat}
    (h : Alike run t u) (ht : Course run t hs gs) (hu : Course run u hs gs')
    (hn : gs[n]? ≠ gs'[n]?) :
    ∃ k ≤ n, gs.take k = gs'.take k ∧ gs[k]? ≠ gs'[k]? ∧ ∃ name trigger release now,
      (deals hs)[k]? = some (.ask name trigger release now) ∧
        t.policyFor? name ≠ u.policyFor? name := by
  induction ht generalizing u gs' n with
  | done =>
    cases hu
    exact absurd rfl hn
  | @deal t v hs gs d away rest ih =>
    cases hu with
    | @deal _ v' _ gs' _ away' rest' =>
      have hpolicies : ∀ name, v.policyFor? name ≠ v'.policyFor? name →
          t.policyFor? name ≠ u.policyFor? name := fun name => by
        rw [policyFor?_congr away.policies, policyFor?_congr away'.policies]
        exact id
      rcases (h.away away away').deal d with hnext | ⟨hdiffers, name, trigger, release, now, rfl, hp⟩
      · have heq := hnext.get?_eq d.about
        rw [heq] at hn ⊢
        cases n with
        | zero => exact absurd rfl hn
        | succ n =>
          obtain ⟨k, hk, htake, hdiffers, name, trigger, release, now, hask, hp⟩ :=
            ih hnext rest' hn
          rw [policyFor?_congr (policies_deal v run d), policyFor?_congr (policies_deal v' run d)]
            at hp
          exact ⟨k + 1, Nat.succ_le_succ hk, congrArg (_ :: ·) htake, hdiffers, name, trigger,
            release, now, hask, hpolicies name hp⟩
      · exact ⟨0, Nat.zero_le n, rfl, fun heq => hdiffers (Option.some.inj heq), name, trigger,
          release, now, rfl, hpolicies name hp⟩
  | brings x own clear policies rest ih =>
    cases hu with
    | brings _ own' clear' policies' rest' =>
      have hnext : Alike run _ _ := ⟨by rw [own, own', h.same], clear h.clear, clear' h.clear'⟩
      obtain ⟨k, hk, htake, hdiffers, name, trigger, release, now, hask, hp⟩ := ih hnext rest' hn
      rw [policies, policies'] at hp
      exact ⟨k, hk, htake, hdiffers, name, trigger, release, now, hask,
        fun heq => hp (congrArg (·.or (x.policyFor? name)) heq)⟩

end GateTable

namespace Orchestrator

variable {o o' o'' : Orchestrator} {w : Workflow} {name : String}

/-- What is known to be attached stands in the gate table, if not under the same policy then under
the same pattern. -/
def Backed (o : Orchestrator) : Prop :=
  ∀ pattern mark, (pattern, mark) ∈ o.attached → ∃ p, (pattern, p) ∈ o.gates.policies

/-- A workflow adds its policies behind those that are there. -/
theorem policyFor?_attachPolicies (h : o.Backed) (w : Workflow) :
    (o.attachPolicies w).Backed ∧ ∀ name,
      (o.attachPolicies w).gates.policyFor? name =
        (o.gates.policyFor? name).or (w.policyFor? name) := by
  unfold attachPolicies Workflow.policyFor?
  generalize w.approvals = approvals
  induction approvals generalizing o with
  | nil => exact ⟨h, fun name => by simp⟩
  | cons a approvals ih =>
    obtain ⟨pattern, a⟩ := a
    rw [List.foldl_cons]
    dsimp only
    split
    · rename_i hold
      refine ⟨(ih h).1, fun name => ?_⟩
      rw [(ih h).2]
      by_cases fits : globMatches pattern name = true
      · obtain ⟨p, hp⟩ := h pattern a.mark (by simpa using hold)
        obtain ⟨q, hq⟩ := Option.ne_none_iff_exists'.1 (GateTable.policyFor?_ne_none hp fits)
        simp [hq]
      · simp [fits]
    · have hnew : Backed { o with
          gates := o.gates.attach pattern a.policy
          attached := o.attached ++ [(pattern, a.mark)] } := by
        intro pattern' mark' hm
        rcases List.mem_append.1 hm with hm | hm
        · obtain ⟨p, hp⟩ := h pattern' mark' hm
          exact ⟨p, List.mem_append_left _ hp⟩
        · cases List.mem_singleton.1 hm
          exact ⟨a.policy, List.mem_append_right _ (List.mem_singleton.2 rfl)⟩
      refine ⟨(ih hnew).1, fun name => ?_⟩
      rw [(ih hnew).2, GateTable.policyFor?_attach, Option.or_assoc]
      by_cases fits : globMatches pattern name = true <;> simp [fits]

theorem gates_attachPolicies (o : Orchestrator) (w : Workflow) :
    (o.attachPolicies w).gates.gates = o.gates.gates := by
  unfold attachPolicies
  induction w.approvals generalizing o with
  | nil => rfl
  | cons a approvals ih =>
    rw [List.foldl_cons, ih]
    dsimp only
    split <;> rfl

/-! ## What an orchestrator comes to -/

/-- The same policies are attached. -/
structure SamePolicies (o o' : Orchestrator) : Prop where
  policies : o'.gates.policies = o.gates.policies
  attached : o'.attached = o.attached

theorem SamePolicies.refl (o : Orchestrator) : SamePolicies o o := ⟨rfl, rfl⟩

/-- Whether the filter of a workflow lets the trigger of a run through. -/
def admits (w : Workflow) (t : Trigger) : Bool :=
  match wants w (namedTrigger w t) with
  | .ok b => b
  | .error _ => false

/-- A run that is started brings the policies of its workflow, even if it is refused after that.
All else that it does to the orchestrator is that it is written down. -/
theorem prepareStart_brings (o : Orchestrator) (w : Workflow) (t : Trigger)
    (source : Option VersionSource) (runId : String) (key : Nat) (now : Time) :
    ∃ store, (o.prepareStart w t source runId key now).1 =
      { (if admits w t then o.attachPolicies w else o) with store } := by
  unfold prepareStart admits
  dsimp only
  rw [show (if t.workflow = "" then { t with workflow := w.name } else t) = namedTrigger w t
    from rfl]
  rcases wants w (namedTrigger w t) with b | b
  · exact ⟨o.store, rfl⟩
  · cases b with
    | false => exact ⟨o.store, rfl⟩
    | true =>
      simp only [if_true]
      split
      · exact ⟨_, rfl⟩
      · split
        · exact ⟨_, rfl⟩
        · split
          · exact ⟨_, rfl⟩
          · exact ⟨_, rfl⟩

theorem samePolicies_prepareStart (o : Orchestrator) (w : Workflow) (t : Trigger)
    (source : Option VersionSource) (runId : String) (key : Nat) (now : Time) :
    SamePolicies (if admits w t then o.attachPolicies w else o)
      (o.prepareStart w t source runId key now).1 := by
  obtain ⟨store, h⟩ := prepareStart_brings o w t source runId key now
  rw [h]
  exact ⟨rfl, rfl⟩

/-- Whether the store has the run. -/
def knows (o : Orchestrator) (runId : String) : Bool :=
  o.store.any fun store => store.load runId matches .ok _

/-- A run that is resumed brings the policies of the workflow too. -/
theorem samePolicies_prepareResume (o : Orchestrator) (w : Workflow)
    (source : Option VersionSource) (runId : String) (key : Nat) (now : Time) :
    SamePolicies (if o.knows runId then o.attachPolicies w else o)
      (o.prepareResume w source runId key now).1 := by
  have hrestore : ∀ (t : GateTable Nat) (gates : List Gate),
      (restoreGates t gates now).policies = t.policies := fun t gates => by rw [restoreGates_eq]
  unfold prepareResume knows
  rcases o.store with _ | store
  · exact .refl o
  · rw [Option.any_some]
    dsimp only
    rcases store.load runId with fault | old
    · exact .refl o
    · simp only [if_true]
      split
      · exact .refl _
      · split <;> exact ⟨hrestore _ _, rfl⟩

/-- A run that is at work attaches no policy. -/
theorem samePolicies_of_work {s s' : Scheduler} (h : Scheduler.Work s s') (lent : s.gates = o.gates) :
    SamePolicies o { o with gates := s'.gates } := by
  refine ⟨?_, rfl⟩
  rw [← lent]
  cases h.gateWork with
  | none h => rw [h.gates]
  | request name trigger release now h =>
    rw [h.gates]
    exact GateTable.policies_request s.gates name s.run.id trigger release now
  | expire settled h =>
    rw [h.gates]
    exact GateTable.policies_decideAs settled

/-- Nor does a run that ends. -/
theorem samePolicies_finish {s : Scheduler} (lent : s.gates = o.gates) :
    SamePolicies o { o with gates := s.finish.gates } := by
  refine ⟨?_, rfl⟩
  rw [← lent, (Scheduler.handles_finish s).gates]
  exact GateTable.policies_closeAll _ s.gates s.now

/-! ## Where policies come from -/

/-- The policy that is asked about a gate: the first one that was brought and fits. -/
def consulted (origins : List Origin) (name : String) : Option Policy :=
  origins.findSome? (Origin.policyFor? name)

/-- What a start brings. -/
def brings (w : Workflow) (t : Trigger) : List Origin := if admits w t then [.workflow w] else []

/-- What an orchestrator can come to, and what brought policies on the way, in order. -/
inductive Comes (o : Orchestrator) : List Origin → Orchestrator → Prop
  | refl : Comes o [] o
  | start {origins : List Origin} {o' : Orchestrator} (h : Comes o origins o') (w : Workflow)
      (t : Trigger) (source : Option VersionSource) (runId : String) (key : Nat) (now : Time) :
      Comes o (origins ++ brings w t) (o'.prepareStart w t source runId key now).1
  | resume {origins : List Origin} {o' : Orchestrator} (h : Comes o origins o') (w : Workflow)
      (source : Option VersionSource) (runId : String) (key : Nat) (now : Time) :
      Comes o (origins ++ if o'.knows runId then [.workflow w] else [])
        (o'.prepareResume w source runId key now).1
  | attach {origins : List Origin} {o' : Orchestrator} (h : Comes o origins o')
      (pattern : String) (p : Policy) :
      Comes o (origins ++ [.outside pattern p]) { o' with gates := o'.gates.attach pattern p }
  /-- Runs work and end, others enter groups, request gates and decide them. -/
  | elsewhere {origins : List Origin} {o' o'' : Orchestrator} (h : Comes o origins o')
      (same : SamePolicies o' o'') : Comes o origins o''

theorem Comes.trans {origins more : List Origin} (h : Comes o origins o')
    (h' : Comes o' more o'') : Comes o (origins ++ more) o'' := by
  induction h' with
  | refl => rwa [List.append_nil]
  | start _ w t source runId key now ih =>
    rw [← List.append_assoc]
    exact ih.start w t source runId key now
  | resume _ w source runId key now ih =>
    rw [← List.append_assoc]
    exact ih.resume w source runId key now
  | attach _ pattern p ih =>
    rw [← List.append_assoc]
    exact ih.attach pattern p
  | elsewhere _ same ih => exact ih.elsewhere same

theorem SamePolicies.backed (h : SamePolicies o o') (hb : o.Backed) : o'.Backed := by
  intro pattern mark hm
  rw [h.attached] at hm
  rw [h.policies]
  exact hb pattern mark hm

theorem SamePolicies.policyFor? (h : SamePolicies o o') (name : String) :
    o'.gates.policyFor? name = o.gates.policyFor? name := GateTable.policyFor?_congr h.policies name

theorem consulted_append (before after : List Origin) (name : String) :
    consulted (before ++ after) name = (consulted before name).or (consulted after name) :=
  List.findSome?_append

/-- A workflow brings its policies, or does not. -/
theorem SamePolicies.brought {b : Bool}
    (h : SamePolicies (if b then o.attachPolicies w else o) o') (hb : o.Backed) :
    o'.Backed ∧ ∀ name, o'.gates.policyFor? name = (o.gates.policyFor? name).or
      (consulted (if b then [.workflow w] else []) name) := by
  cases b with
  | false => exact ⟨h.backed hb, fun name => by simpa [consulted] using h.policyFor? name⟩
  | true =>
    obtain ⟨hb', hp⟩ := policyFor?_attachPolicies hb w
    refine ⟨h.backed hb', fun name => (h.policyFor? name).trans ?_⟩
    simp [hp, consulted, Origin.policyFor?]

/-- For the runs that are there, a run that is started brings policies and does nothing else. -/
theorem course_prepareStart (hb : o.Backed) {t : Trigger} (admitted : admits w t = true)
    (source : Option VersionSource) (runId : String) (key : Nat) (now : Time) {run : String}
    {hs : List GateTable.Happening} {gs : List (Option Gate)}
    (rest : GateTable.Course run (o.prepareStart w t source runId key now).1.gates hs gs) :
    GateTable.Course run o.gates (.brings (.workflow w) :: hs) gs := by
  have hp := ((samePolicies_prepareStart o w t source runId key now).brought hb).2
  obtain ⟨store, h⟩ := prepareStart_brings o w t source runId key now
  rw [admitted, if_pos rfl] at h hp
  refine .brings_of_gates _ (by rw [h, ← gates_attachPolicies o w]) (fun name => ?_) rest
  rw [hp name]
  simp [consulted]

/-- The policy for a gate is the first one that was brought and fits. -/
theorem Comes.policyFor? {origins : List Origin} (h : Comes o origins o') (hb : o.Backed) :
    o'.Backed ∧ ∀ name, o'.gates.policyFor? name =
      (o.gates.policyFor? name).or (consulted origins name) := by
  induction h with
  | refl => exact ⟨hb, fun name => by simp [consulted]⟩
  | start h w t source runId key now ih =>
    obtain ⟨hb', hp⟩ := (samePolicies_prepareStart _ w t source runId key now).brought ih.1
    exact ⟨hb', fun name => by rw [hp, ih.2, consulted_append, Option.or_assoc]; rfl⟩
  | resume h w source runId key now ih =>
    obtain ⟨hb', hp⟩ := (samePolicies_prepareResume _ w source runId key now).brought ih.1
    exact ⟨hb', fun name => by rw [hp, ih.2, consulted_append, Option.or_assoc]⟩
  | attach h pattern p ih =>
    refine ⟨fun pattern' mark' hm => ?_, fun name => ?_⟩
    · obtain ⟨q, hq⟩ := ih.1 pattern' mark' hm
      exact ⟨q, List.mem_append_left _ hq⟩
    · rw [GateTable.policyFor?_attach, ih.2, consulted_append, Option.or_assoc]
      simp [consulted, Origin.policyFor?]
  | elsewhere h same ih =>
    exact ⟨same.backed ih.1, fun name => (same.policyFor? name).trans (ih.2 name)⟩

/-- The policies of an orchestrator that had none at first. -/
theorem Comes.policyFor?_of_new {new : Orchestrator} {origins : List Origin}
    (h : Comes new origins o) (unused : new.attached = [] ∧ new.gates.policies = [])
    (name : String) : o.gates.policyFor? name = consulted origins name := by
  have hb : new.Backed := fun pattern mark hm => by
    rw [unused.1] at hm
    cases hm
  have hnone : new.gates.policyFor? name = none := by
    rw [GateTable.policyFor?, unused.2]
    rfl
  rw [(h.policyFor? hb).2, hnone, Option.none_or]

/-- A workflow that brings a policy for a gate was admitted and has a pattern that fits. -/
theorem fits_of_brings {t : Trigger} (h : consulted (brings w t) name ≠ none) :
    admits w t = true ∧ ∃ a ∈ w.approvals, globMatches a.1 name = true := by
  unfold brings at h
  split at h
  · rename_i admitted
    have hfits : w.policyFor? name ≠ none := by
      simpa [consulted, Origin.policyFor?] using h
    rw [Workflow.policyFor?, Ne, Option.map_eq_none_iff, List.find?_eq_none] at hfits
    push Not at hfits
    exact ⟨admitted, hfits⟩
  · exact absurd rfl h

/-- The policy that is asked about a gate is the first that was brought and fits. So let a run of a
workflow be started on an orchestrator on which one of another workflow was started earlier, and on
one on which it was not, all else being the same, and let the same be done about its gates in both.
If a gate stands otherwise in one than in the other, then the first one that does is one that the
run asks for; the other workflow was admitted and has a pattern that fits the name of that gate, and
no policy that was brought before fits it. Only from there on does the difference reach the policies
for other gates of the run, which may look at this one. At first the same gates of the run are there
in both, as a rule none, and none of another run under an identity of it: run ids without a slash
see to that (`alike_of_plain`). -/
theorem another_workflow_counts_only_from_where_its_pattern_comes_first
    {new o alone after : Orchestrator} {before between : List Origin} {first : Workflow}
    {t₁ : Trigger} {source₁ : Option VersionSource} {run₁ : String} {key₁ : Nat} {now₁ : Time}
    (unused : new.attached = [] ∧ new.gates.policies = []) (life : Comes new before o)
    (without : Comes o between alone)
    (with_ : Comes (o.prepareStart first t₁ source₁ run₁ key₁ now₁).1 between after)
    (second : Workflow) (t₂ : Trigger) (source₂ : Option VersionSource) (run₂ : String) (key₂ : Nat)
    (now₂ : Time) :
    let started := (after.prepareStart second t₂ source₂ run₂ key₂ now₂).1
    let started' := (alone.prepareStart second t₂ source₂ run₂ key₂ now₂).1
    (∀ later o₂, Comes started later o₂ → ∀ name, o₂.gates.policyFor? name =
      consulted (before ++ brings first t₁ ++ between ++ brings second t₂ ++ later) name) ∧
    (∀ later o₂, Comes started' later o₂ → ∀ name, o₂.gates.policyFor? name =
      consulted (before ++ between ++ brings second t₂ ++ later) name) ∧
    ∀ (hs : List GateTable.Happening) (gs gs' : List (Option Gate)),
      GateTable.Alike run₂ started.gates started'.gates →
      GateTable.Course run₂ started.gates hs gs → GateTable.Course run₂ started'.gates hs gs' →
      ∀ n, gs[n]? ≠ gs'[n]? → ∃ k ≤ n, gs.take k = gs'.take k ∧ gs[k]? ≠ gs'[k]? ∧
        ∃ name trigger release now,
          (GateTable.deals hs)[k]? = some (.ask name trigger release now) ∧
            admits first t₁ = true ∧ (∃ a ∈ first.approvals, globMatches a.1 name = true) ∧
            consulted before name = none := by
  intro started started'
  have hafter := ((life.start first t₁ source₁ run₁ key₁ now₁).trans with_).start second t₂
    source₂ run₂ key₂ now₂
  have halone := (life.trans without).start second t₂ source₂ run₂ key₂ now₂
  refine ⟨fun later o₂ h => (hafter.trans h).policyFor?_of_new unused,
    fun later o₂ h => (halone.trans h).policyFor?_of_new unused,
    fun hs gs gs' alike course course' n hn => ?_⟩
  obtain ⟨k, hk, htake, hdiffers, name, trigger, release, now, hask, hp⟩ :=
    alike.course course course' hn
  rw [hafter.policyFor?_of_new unused, halone.policyFor?_of_new unused] at hp
  simp only [consulted_append] at hp
  have hfirst : consulted (brings first t₁) name ≠ none := fun hnone => hp (by simp [hnone])
  have hbefore : consulted before name = none := by
    by_contra hold
    obtain ⟨p, hold⟩ := Option.ne_none_iff_exists'.1 hold
    exact hp (by simp [hold])
  exact ⟨k, hk, htake, hdiffers, name, trigger, release, now, hask,
    (fits_of_brings hfirst).1, (fits_of_brings hfirst).2, hbefore⟩

/-- A workflow that lets its staging gate pass. -/
def trialWorkflow : Workflow where
  name := "trial"
  stages := [{ name := "build" }]
  approvals := [("staging", { policy := .allOf [] })]

/-- A workflow whose production gate passes as soon as its staging gate has. -/
def deliveryWorkflow : Workflow where
  name := "delivery"
  stages := [{ name := "try", environment := some "staging" },
    { name := "ship", environment := some "production" }]
  approvals := [("production", { policy := .afterApproved ["staging"] })]

/-- The run asks for both gates. -/
def deliveryDeals : List GateTable.Deal :=
  [.ask "staging" (some {}) none 1, .ask "production" (some {}) none 2]

/-- How the gates stand when the run has asked for them. -/
def deliveryGates (o : Orchestrator) : List (Option Gate) :=
  let staged := (o.prepareStart deliveryWorkflow {} none "r2" 2 0).1.gates.deal "r2"
    (.ask "staging" (some {}) none 1)
  [staged.get? (gateId "r2" "staging"),
    (staged.deal "r2" (.ask "production" (some {}) none 2)).get? (gateId "r2" "production")]

/-- No pattern of the trial fits the production gate, and yet it passes where a trial was run before:
the staging gate, which the run has asked for earlier, passes there. -/
theorem the_policy_for_staging_reaches_production :
    let tried := (({} : Orchestrator).prepareStart trialWorkflow {} none "r1" 1 0).1
    (deliveryGates tried).map (·.map Gate.verdict) =
        [some (.approved, some "policy:all_of()"),
          some (.approved, some "policy:after_approved(staging)")] ∧
      (deliveryGates {}).map (·.map Gate.verdict) =
        [some (.pending, none), some (.pending, none)] ∧
      (∀ a ∈ trialWorkflow.approvals, globMatches a.1 "production" = false) ∧
      ∃ k ≤ 1, ∃ name trigger release now,
        deliveryDeals[k]? = some (.ask name trigger release now) ∧
          ∃ a ∈ trialWorkflow.approvals, globMatches a.1 name = true := by
  intro tried
  refine ⟨by decide +kernel, by decide +kernel, by decide +kernel, ?_⟩
  have law := another_workflow_counts_only_from_where_its_pattern_comes_first ⟨rfl, rfl⟩ .refl
    (.refl (o := {})) (.refl (o := tried)) deliveryWorkflow {} none "r2" 2 0
  have clear : ∀ {table : GateTable Nat}, table.gates = [] → table.Clear "r2" := by
    intro table hnone name g hg
    rw [GateTable.get?, hnone] at hg
    cases hg
  have course : ∀ table : GateTable Nat, GateTable.Course "r2" table
      (deliveryDeals.map .deal) _ := fun table =>
    .deal _ (.refl _ _) (.deal _ (.refl _ _) (.done _))
  obtain ⟨k, hk, _, _, name, trigger, release, now, hask, _, hfits, _⟩ :=
    law.2.2 (deliveryDeals.map .deal) (deliveryGates tried) (deliveryGates {})
      ⟨by decide +kernel, clear (by decide +kernel), clear (by decide +kernel)⟩
      (course _) (course _) 1 (by decide +kernel)
  exact ⟨k, hk, name, trigger, release, now, hask, hfits⟩

end Orchestrator

/-! ## A policy that approves the gates of another workflow -/

namespace Host

/-- A workflow that lets all its gates pass. -/
def previewWorkflow : Workflow where
  name := "preview"
  stages := [{ name := "build" }]
  approvals := [("*", { policy := .allOf [] })]

/-- A workflow that has its deployment approved by someone. -/
def deployWorkflow : Workflow where
  name := "ci"
  stages := [{ name := "deploy", environment := some "production" }]

/-- A host starts the deployment. -/
def deployed (p : Host) : Host := (p.launch "r2" (.start deployWorkflow {} none)).settle

/-- The gate of the deployment waits for someone. But where a preview was run before, its policy
approves the deployment too. -/
theorem the_policy_of_the_preview_approves_the_deployment :
    ((deployed {}).orchestrator.gates.get? "r2/production").map Gate.verdict =
        some (.pending, none) ∧
      ((deployed (({} : Host).runAlone "r1" (.start previewWorkflow {} none) [])).orchestrator.gates.get?
        "r2/production").map Gate.verdict = some (.approved, some "policy:all_of()") := by
  decide +kernel

end Host

end GatedPipeline
