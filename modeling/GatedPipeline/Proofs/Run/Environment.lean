-- Environments guard their stages. A stage that names one is started only when
-- its gate is approved, unless nothing is left of the name when the coordinates
-- are filled in.
import GatedPipeline.Proofs.Run.Dispatch
import GatedPipeline.Proofs.Text
namespace GatedPipeline
open GatedPipeline.Text

/-! ## The name of the gate -/

namespace Instance

/-- The name of an environment with coordinates filled in one after the other. -/
def filled (cs : Coordinates) (env : String) : String :=
  cs.foldl (fun s (d, v) => replace (placeOf d) v s) env

theorem gateName_of_environment {i : Instance} {env : String}
    (declared : i.template.environment = some env) (hne : env ≠ "") :
    i.gateName = some (filled i.coordinates env) := by
  simp only [gateName, declared, if_neg hne, filled]

theorem placeOf_ne_empty (d : String) : placeOf d ≠ "" := by
  intro h
  have hlist := congrArg String.toList h
  simp [placeOf, String.toList_append] at hlist

theorem filled_empty (cs : Coordinates) : filled cs "" = "" := by
  induction cs with
  | nil => rfl
  | cons c cs ih => exact ih

/-- Nothing is left of a name when, at the turn of a coordinate whose value is empty, it consists of
the places for this coordinate. -/
theorem filled_eq_empty_iff {cs : Coordinates} {env : String} (hne : env ≠ "") :
    filled cs env = "" ↔ ∃ before d after n,
      cs = before ++ (d, "") :: after ∧ filled before env = copies n (placeOf d) := by
  induction cs generalizing env with
  | nil => simp [filled, hne]
  | cons c cs ih =>
    obtain ⟨d, v⟩ := c
    have hstep := replace_eq_empty_iff (placeOf_ne_empty d) v env
    rw [or_iff_right hne] at hstep
    have hfilled : filled ((d, v) :: cs) env = filled cs (replace (placeOf d) v env) := rfl
    rw [hfilled]
    by_cases hgone : replace (placeOf d) v env = ""
    · obtain ⟨rfl, n, hn⟩ := hstep.1 hgone
      rw [hgone]
      exact ⟨fun _ => ⟨[], d, cs, n, rfl, hn⟩, fun _ => filled_empty cs⟩
    · rw [ih hgone]
      constructor
      · rintro ⟨before, d', after, n, rfl, hn⟩
        exact ⟨(d, v) :: before, d', after, n, rfl, hn⟩
      · rintro ⟨before, d', after, n, hcs, hn⟩
        cases before with
        | nil =>
          obtain ⟨hc, -⟩ := List.cons.inj hcs
          obtain ⟨rfl, rfl⟩ := Prod.mk.inj hc
          exact absurd (hstep.2 ⟨rfl, n, hn⟩) hgone
        | cons c' before =>
          obtain ⟨rfl, rfl⟩ := List.cons.inj hcs
          exact ⟨before, d', after, n, rfl, hn⟩

/-- At the turn of a coordinate whose value is empty, the name of the environment consists of the
places for it, and so nothing is left of the name. -/
def Vanishes (i : Instance) : Prop :=
  ∃ env ∈ i.template.environment, ∃ before d after n,
    i.coordinates = before ++ (d, "") :: after ∧ filled before env = copies n (placeOf d)

/-- While no coordinate is empty, something is left of the name. -/
theorem not_vanishes {i : Instance} (full : ∀ c ∈ i.coordinates, c.2 ≠ "") : ¬ i.Vanishes := by
  rintro ⟨_, _, before, d, after, _, hcs, _⟩
  exact full (d, "") (by simp [hcs]) rfl

end Instance

namespace Scheduler

variable {s₀ s t e : Scheduler} {id : String} {i : Instance}

/-! ## No body is started behind a closed gate -/

/-- An instance that is let go on waits for its gate, unless the gate is approved. -/
def Barred (s : Scheduler) : Prop :=
  ∀ i, s.graph.instance? i.id = some i → s.state i.id = .ready ∨ s.state i.id = .running →
    ∀ name, i.gateName.filter (· ≠ "") = some name →
      getPair? i.id s.awaiting = some (gateId s.run.id name) ∨ s.Approved name

theorem Poised.barred (h : Poised s) : Barred s := by
  intro i _ was
  rcases h.state i.id with hs | hs <;> rw [hs] at was <;> rcases was with was | was <;> cases was

/-- What is to be shown of a change: for an instance that was not let go on before, or that waits
for another gate now, that it waits for its gate or the gate is approved. -/
theorem Barred.logs (h : Barred s) (hl : Logs s t)
    (hnew : ∀ i, s.graph.instance? i.id = some i → t.state i.id = .ready ∨ t.state i.id = .running →
      (s.state i.id = .ready ∨ s.state i.id = .running) ∧
          getPair? i.id t.awaiting = getPair? i.id s.awaiting ∨
        ∀ name, i.gateName.filter (· ≠ "") = some name →
          getPair? i.id t.awaiting = some (gateId s.run.id name) ∨ s.Approved name) :
    Barred t := by
  intro i hi hgo name hn
  rw [show t.graph = s.graph from hl.steady.graph] at hi
  rw [hl.steady.runId]
  have happroved : s.Approved name → t.Approved name := fun ha => ha.steady hl.steady
  rcases hnew i hi hgo with ⟨was, hsame⟩ | hgate
  · rw [hsame]
    exact (h i hi was name hn).imp_right happroved
  · exact (hgate name hn).imp_right happroved

theorem Barred.wane (h : Barred s) (hw : Wane s t) : Barred t := by
  refine h.logs hw.logs fun i _ hgo => Or.inl ?_
  rcases hw with ha | @⟨id, r, hl⟩
  · rw [ha.state] at hgo
    exact ⟨hgo, by rw [ha.awaiting]⟩
  · rw [hl.state] at hgo
    split at hgo
    · have hlost := hl.lost
      rcases hgo with hgo | hgo <;> rw [hgo] at hlost <;> cases hlost
    · rename_i hid
      exact ⟨hgo, by rw [hl.awaiting, getPair?_dropPair, if_neg hid]⟩

/-- An instance that is made ready is to wait for its gate, or the gate is approved. -/
theorem Barred.ready {awaiting : List (String × String)} (h : Barred s)
    (hi : s.graph.instance? i.id = some i) (hl : Logs s (move { s with awaiting } i.id .ready))
    (was : s.state i.id = .pending ∨ s.state i.id = .blocked)
    (ha : ∀ j, j ≠ i.id → getPair? j awaiting = getPair? j s.awaiting)
    (hg : ∀ name, i.gateName.filter (· ≠ "") = some name →
      getPair? i.id awaiting = some (gateId s.run.id name) ∨ s.Approved name) :
    Barred (move { s with awaiting } i.id .ready) := by
  have ho := State.not_isTerminal_of_isWaiting (isWaiting_of_was was)
  have hawaiting : (move { s with awaiting } i.id .ready).awaiting = awaiting := by
    rw [@move_of_unended { s with awaiting } i.id .ready none ho rfl]
  refine h.logs hl fun j hj hgo => ?_
  rw [hawaiting]
  by_cases hid : j.id = i.id
  · obtain rfl := instance_unique hj hi hid
    exact Or.inr hg
  · rw [@state_move { s with awaiting } i.id .ready none ho, if_neg hid] at hgo
    exact Or.inl ⟨hgo, ha _ hid⟩

theorem Barred.rise (hf : Framed s) (h : Barred s) (hr : Rise e s t) : Barred t := by
  have hlogs := hr.logs hf
  cases hr with
  | @block id _ was =>
    have ho : (s.state id).isTerminal = false := by rw [was]; rfl
    refine h.logs hlogs fun i _ hgo => Or.inl ?_
    rw [state_move ho] at hgo
    split at hgo
    · rcases hgo with hgo | hgo <;> cases hgo
    · exact ⟨hgo, by rw [move_of_unended ho rfl]⟩
  | @ready i known was _ gate =>
    exact h.ready known hlogs was (fun _ _ => rfl) fun name hn => Or.inr (gate name hn)
  | @wait i name g known was _ gate =>
    refine h.ready known hlogs was (fun j hj => by rw [getPair?_putPair, if_neg hj])
      fun name' hn => Or.inl ?_
    rw [gate] at hn
    cases hn
    rw [getPair?_putPair, if_pos rfl]
  | @pass id gid g was waits known approved =>
    refine h.logs hlogs fun i hi hgo => ?_
    by_cases hid : i.id = id
    · subst hid
      refine Or.inr fun name hn => Or.inr ?_
      rcases h i hi hgo name hn with hwaits | happroved
      · rw [waits] at hwaits
        cases hwaits
        exact ⟨g, known, approved⟩
      · exact happroved
    · exact Or.inl ⟨hgo, by rw [getPair?_dropPair, if_neg hid]⟩
  | @start id inputs _ _ _ able =>
    have was := (ready_of_startable able).1
    refine h.logs hlogs fun i _ hgo => Or.inl ?_
    rw [start_eq (by rw [was]; rfl)] at hgo ⊢
    refine ⟨?_, rfl⟩
    rw [state_putPair _ _ rfl] at hgo
    split at hgo
    · rename_i hid
      exact Or.inl (hid ▸ was)
    · exact hgo
  | @succeed i report rest o known told good was wrote all =>
    refine h.logs hlogs fun j _ hgo => Or.inl ?_
    rw [complete_of_success known was good wrote all] at hgo ⊢
    rw [state_putPair _ _ rfl] at hgo
    split at hgo
    · rcases hgo with hgo | hgo <;> cases hgo
    · rename_i hid
      exact ⟨hgo, by rw [getPair?_dropPair, if_neg hid]⟩

theorem Leads.barred (h₀ : Poised s₀) (h : Leads s₀ s) : Tidy s ∧ Barred s :=
  h.keeps (P := fun v => Tidy v ∧ Barred v) h₀.framed h₀.keyed ⟨h₀.tidy, h₀.barred⟩
    (fun _ _ _ hu hw => ⟨hu.1.wane hw, hu.2.wane hw⟩)
    fun _ _ _ hf hu hr => ⟨hu.1.rise hf hr, hu.2.rise hf hr⟩

/-- The gate of an instance is approved when its body is started, and it stays so. -/
theorem Leads.approved_of_started {name : String} (h₀ : Poised s₀) (h : Leads s₀ s)
    (hi : s.graph.instance? i.id = some i) (hn : i.gateName.filter (· ≠ "") = some name)
    (hm : i.id ∈ s.started) : s.Approved name := by
  obtain ⟨u, before, after, runs⟩ := (h.mem_started_iff h₀).1 hm
  obtain ⟨hf, hk⟩ := before.framed h₀.framed h₀.keyed
  obtain ⟨htidy, hbarred⟩ := before.barred h₀
  have hsteady : Steady u s := after.steady hf hk
  rw [show s.graph = u.graph from hsteady.graph] at hi
  rcases hbarred i hi (Or.inr runs) name hn with waits | happroved
  · have hready := htidy.awaiting _ _ waits
    rw [runs] at hready
    cases hready
  · exact happroved.steady hsteady

/-! ## The law -/

/-- A stage that declares an environment has a gate with a name, unless the name vanishes when the
coordinates are filled in. And in a run no instance of it is started, unless the name vanishes,
before its gate is approved. -/
theorem a_declared_environment_is_gated_unless_its_name_vanishes {env : String}
    (declared : i.template.environment = some env) (hne : env ≠ "") :
    ∃ name, i.gateName = some name ∧ (name = "" ↔ i.Vanishes) ∧
      ∀ s₀ s : Scheduler, Poised s₀ → Leads s₀ s → s.graph.instance? i.id = some i →
        ¬ i.Vanishes → i.id ∈ s.started →
          ∃ g, s.gates.get? (gateId s.run.id name) = some g ∧ g.status = .approved := by
  have hname := Instance.gateName_of_environment declared hne
  have hgone : Instance.filled i.coordinates env = "" ↔ i.Vanishes := by
    rw [Instance.filled_eq_empty_iff hne, Instance.Vanishes]
    simp [declared]
  refine ⟨_, hname, hgone, fun s₀ s h₀ h hi hstays hm => ?_⟩
  have hnamed : Instance.filled i.coordinates env ≠ "" := fun he => hstays (hgone.1 he)
  exact h.approved_of_started h₀ hi (by simp [hname, hnamed]) hm

/-! ## Deployments to regions -/

/-- A workflow that deploys to each of the regions, behind a gate that is named for the region. -/
def regionWorkflow (regions : List String) : Workflow where
  name := "ci"
  stages := [
    { name := "deploy", environment := some "\x7bmatrix.region\x7d"
      matrix := some { dimensions := [("region", regions.map Value.text)] } }]

/-- The scheduler of a run of it. -/
def regionStart (regions : List String) : Scheduler :=
  match ({} : Orchestrator).prepareStart (regionWorkflow regions) {} none "r1" 0 0 with
  | (_, .ready s _) => s
  | _ => default

theorem fresh_regionStart {regions : List String}
    (hready : (({} : Orchestrator).prepareStart (regionWorkflow regions) {} none "r1" 0
      0).2.isReady = true) : Fresh (regionStart regions) := by
  obtain ⟨_, _, ready⟩ := Prepared.exists_ready hready
  exact Orchestrator.fresh_prepareStart ready

/-- The deployment to Europe is approved. -/
def regionApproved : Scheduler :=
  let waiting := (regionStart ["eu"]).begin
  match waiting.gates.decide "r1/eu" (.status .approved) "ann" "" 1 with
  | .ok c => ({ waiting with gates := c.table }.deliver c.notices).turn
  | .error _ => waiting

theorem leads_regionApproved : Leads (regionStart ["eu"]) regionApproved := by
  unfold regionApproved
  dsimp only
  split
  · rename_i c hc
    exact ((leads_begin _).trans (Step.gates (.decide hc) c.notices).leads).trans (leads_turn _)
  · exact leads_begin _

theorem the_deployment_to_europe_was_approved :
    "deploy[region=eu]" ∈ regionApproved.started ∧
      ∃ g, regionApproved.gates.get? "r1/eu" = some g ∧ g.status = .approved := by
  obtain ⟨i, hi, hid, henv, hname, hfull⟩ : ∃ i,
      regionApproved.graph.instance? "deploy[region=eu]" = some i ∧ i.id = "deploy[region=eu]" ∧
        i.template.environment = some "\x7bmatrix.region\x7d" ∧ i.gateName = some "eu" ∧
        ∀ c ∈ i.coordinates, c.2 ≠ "" :=
    ⟨_, (Option.some_get (by decide +kernel)).symm, by decide +kernel, by decide +kernel,
      by decide +kernel, by decide +kernel⟩
  have hm : "deploy[region=eu]" ∈ regionApproved.started := by decide +kernel
  have hrun : regionApproved.run.id = "r1" := by decide +kernel
  refine ⟨hm, ?_⟩
  rw [← hid] at hi hm
  obtain ⟨name, hn, _, hgated⟩ :=
    a_declared_environment_is_gated_unless_its_name_vanishes henv (by decide)
  obtain ⟨g, hg, happroved⟩ := hgated (regionStart ["eu"]) regionApproved
    (fresh_regionStart (by decide +kernel)).toPoised leads_regionApproved hi
    (Instance.not_vanishes hfull) hm
  rw [hname] at hn
  cases hn
  rw [hrun] at hg
  exact ⟨g, hg, happroved⟩

/-- A region without a name leaves nothing of the name of the environment, and the deployment is
started at once, with no gate in the table. -/
theorem a_deployment_to_a_nameless_region_is_not_gated :
    Fresh (regionStart [""]) ∧ Leads (regionStart [""]) (regionStart [""]).begin ∧
    ∃ i, (regionStart [""]).begin.graph.instance? i.id = some i ∧
      i.template.environment = some "\x7bmatrix.region\x7d" ∧ i.gateName = some "" ∧
      i.id ∈ (regionStart [""]).begin.started ∧ (regionStart [""]).begin.gates.gates = [] := by
  obtain ⟨i, hi, hid, henv, hname⟩ : ∃ i,
      (regionStart [""]).begin.graph.instance? "deploy[region=]" = some i ∧
        i.id = "deploy[region=]" ∧ i.template.environment = some "\x7bmatrix.region\x7d" ∧
        i.gateName = some "" :=
    ⟨_, (Option.some_get (by decide +kernel)).symm, by decide +kernel, by decide +kernel,
      by decide +kernel⟩
  refine ⟨fresh_regionStart (by decide +kernel), leads_begin _, i, hid ▸ hi, henv, hname, ?_, ?_⟩
  · rw [hid]
    decide +kernel
  · decide +kernel

end Scheduler

end GatedPipeline
