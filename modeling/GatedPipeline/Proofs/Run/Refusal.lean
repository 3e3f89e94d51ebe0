-- What an attempt to run a workflow leaves behind that is refused. The store,
-- the groups and the active runs are as before; but the policies of the workflow
-- may stay attached, and the gates of a recorded run may be put back.
import GatedPipeline.Proofs.Gate.Policies
namespace GatedPipeline.Orchestrator

variable {o o' : Orchestrator} {w : Workflow} {t : Trigger} {source : Option VersionSource}
  {runId : String} {key : Nat} {now : Time} {fault : LaunchFault}

/-! ## Attempts -/

/-- What is attempted with a workflow: a new run, or taking up a recorded one. -/
inductive Attempt where
  | start (t : Trigger)
  | resume

def attempt (o : Orchestrator) (w : Workflow) (source : Option VersionSource) (runId : String)
    (key : Nat) (now : Time) : Attempt → Orchestrator × Prepared
  | .start t => o.prepareStart w t source runId key now
  | .resume => o.prepareResume w source runId key now

/-- The attempt is refused before the policies of the workflow are attached: its filter breaks down,
there is no store, or the store does not know the run. -/
def Attempt.early : Attempt → LaunchFault → Bool
  | .start _, .condition _ => true
  | .resume, .noStore => true
  | .resume, .store _ => true
  | _, _ => false

/-! ## Attaching policies -/

/-- All policies of the workflow have been attached before. -/
def Knows (o : Orchestrator) (w : Workflow) : Prop :=
  ∀ p ∈ w.approvals, (p.1, p.2.mark) ∈ o.attached

/-- Attaching appends the policies that are not known yet, and touches nothing else. -/
theorem attachPolicies_eq (o : Orchestrator) (w : Workflow) : ∃ policies marks,
    o.attachPolicies w = { o with
      gates := { o.gates with policies := o.gates.policies ++ policies }
      attached := o.attached ++ marks } ∧
    (marks = [] ↔ o.Knows w) ∧ (marks = [] → policies = []) ∧
    ∀ p ∈ w.approvals, (p.1, p.2.mark) ∈ o.attached ++ marks := by
  unfold attachPolicies Knows
  generalize w.approvals = approvals
  induction approvals generalizing o with
  | nil => exact ⟨[], [], by simp, by simp, fun _ => rfl, by simp⟩
  | cons a approvals ih =>
    rw [List.foldl_cons]
    dsimp only
    split
    · rename_i hknown
      obtain ⟨policies, marks, he, hiff, hnone, hall⟩ := ih o
      rw [List.contains_iff_mem] at hknown
      refine ⟨policies, marks, he, ?_, hnone, ?_⟩
      · rw [hiff, List.forall_mem_cons]
        exact ⟨fun h => ⟨hknown, h⟩, And.right⟩
      · exact List.forall_mem_cons.2 ⟨List.mem_append_left _ hknown, hall⟩
    · rename_i hnew
      rw [List.contains_iff_mem] at hnew
      obtain ⟨policies, marks, he, _, _, hall⟩ := ih { o with
        gates := o.gates.attach a.1 a.2.policy
        attached := o.attached ++ [(a.1, a.2.mark)] }
      refine ⟨(a.1, a.2.policy) :: policies, (a.1, a.2.mark) :: marks, ?_, ?_, ?_, ?_⟩
      · rw [he]
        simp [GateTable.attach]
      · simp [hnew]
      · simp
      · refine List.forall_mem_cons.2 ⟨by simp, fun p hp => ?_⟩
        simpa using hall p hp

/-! ## Putting gates back -/

/-- No gate changes but those that are put back. -/
theorem get?_restoreGates_of_others {table : GateTable Nat} {gates : List Gate} {id : String}
    (h : ∀ g ∈ gates, g.id ≠ id) : (restoreGates table gates now).get? id = table.get? id := by
  rw [restoreGates_eq, GateTable.get?, GateTable.get?]
  dsimp only
  generalize table.gates = own
  induction gates generalizing own with
  | nil => rfl
  | cons g gates ih =>
    rw [List.map_cons, List.foldl_cons, ih fun g' hg' => h g' (List.mem_cons_of_mem _ hg'),
      getPair?_putPair, if_neg fun he => h g List.mem_cons_self he.symm]

/-! ## Refusals -/

/-- The recorded gates of a run. -/
def gatesOfRun (st : RunStore) (runId : String) : List Gate :=
  (st.gates.map (·.2)).filter (·.runId = runId)

/-- What a late refusal leaves behind: the policies of the workflow are attached, and these gates are
in the table. -/
def leftBehind (o : Orchestrator) (w : Workflow) (gates : List (String × Gate)) : Orchestrator :=
  { o.attachPolicies w with gates := { (o.attachPolicies w).gates with gates } }

/-- A refused attempt ends before the policies are attached, or after that, or, for want of a version
source, when the gates of the recorded run have been put back. -/
theorem attempt_failed {a : Attempt} (h : o.attempt w source runId key now a = (o', .failed fault)) :
    (a.early fault = true ∧ o' = o) ∨
    (a.early fault = false ∧ (∀ id, fault ≠ .needsSource id) ∧ o' = o.leftBehind w o.gates.gates) ∨
    (a.early fault = false ∧ fault = .needsSource runId ∧ ∃ st, o.store = some st ∧
      o' = o.leftBehind w
        (restoreGates (o.attachPolicies w).gates (gatesOfRun st runId) now).gates) := by
  have hattached : o.leftBehind w o.gates.gates = o.attachPolicies w := by
    obtain ⟨policies, marks, he, _⟩ := attachPolicies_eq o w
    rw [leftBehind, he]
  have hrestored : ∀ gates, o.leftBehind w
      (restoreGates (o.attachPolicies w).gates gates now).gates =
      { o.attachPolicies w with gates := restoreGates (o.attachPolicies w).gates gates now } := by
    intro gates
    rw [leftBehind, restoreGates_eq]
  cases a with
  | start t =>
    dsimp only [attempt, prepareStart] at h
    split at h
    · cases h
      exact Or.inl ⟨rfl, rfl⟩
    · cases h
    · split at h
      · cases h
        exact Or.inr (Or.inl ⟨rfl, by simp, hattached.symm⟩)
      · split at h
        · cases h
        · split at h
          · cases h
            exact Or.inr (Or.inl ⟨rfl, by simp, hattached.symm⟩)
          · cases h
  | resume =>
    dsimp only [attempt, prepareResume] at h
    split at h
    · cases h
      exact Or.inl ⟨rfl, rfl⟩
    · rename_i st hst
      split at h
      · cases h
        exact Or.inl ⟨rfl, rfl⟩
      · rename_i old hload
        obtain ⟨_, _, hgates, _⟩ := RunStore.load_spec hload
        split at h
        · cases h
          exact Or.inr (Or.inl ⟨rfl, by simp, hattached.symm⟩)
        · split at h
          · cases h
          · cases h
            rw [hgates]
            exact Or.inr (Or.inr ⟨rfl, rfl, st, hst, (hrestored _).symm⟩)
          · cases h

/-- Whatever a late refusal leaves behind, it leaves the books, the listeners and the older policies as
they are. -/
theorem leftBehind_spec (o : Orchestrator) (w : Workflow) (gates : List (String × Gate)) :
    ((o.leftBehind w gates).store = o.store ∧ (o.leftBehind w gates).groups = o.groups ∧
      (o.leftBehind w gates).active = o.active ∧
      (o.leftBehind w gates).gates.listeners = o.gates.listeners) ∧
    (o.leftBehind w gates).Knows w ∧
    (o.Backed → ∀ name, (o.leftBehind w gates).gates.policyFor? name =
      (o.gates.policyFor? name).or (w.policyFor? name)) ∧
    (o.leftBehind w gates = o ↔ o.Knows w ∧ gates = o.gates.gates) := by
  obtain ⟨policies, marks, he, hiff, hnone, hall⟩ := attachPolicies_eq o w
  refine ⟨by rw [leftBehind, he]; exact ⟨rfl, rfl, rfl, rfl⟩, ?_, fun hbacked name => ?_, ?_⟩
  · rw [leftBehind, he]
    exact hall
  · rw [← (policyFor?_attachPolicies hbacked w).2 name]
    exact GateTable.policyFor?_congr rfl name
  · constructor
    · intro hsame
      have hgates := congrArg (fun o => o.gates.gates) hsame
      refine ⟨hiff.1 ?_, hgates⟩
      have hattached := congrArg Orchestrator.attached hsame
      rw [leftBehind, he] at hattached
      exact List.append_right_eq_self.1 hattached
    · rintro ⟨hknows, rfl⟩
      have hmarks := hiff.2 hknows
      rw [leftBehind, he, hmarks, hnone hmarks, List.append_nil, List.append_nil]

/-! ## The law -/

/-- A refused attempt leaves the store, the groups, the active runs and the gates of other runs as they
are. One that is refused early leaves everything so; any other leaves the policies of the workflow
attached, behind those that were there, and so leaves everything as it is only if they had been
attached before. For want of a version source the gates of the recorded run have been put back by
then, and those that the end of the run had closed are pending again. -/
theorem a_refused_run_leaves_its_policies_and_its_reopened_gates {a : Attempt}
    (h : o.attempt w source runId key now a = (o', .failed fault)) :
    (o'.store = o.store ∧ o'.groups = o.groups ∧ o'.active = o.active ∧
      o'.gates.listeners = o.gates.listeners) ∧
    (∀ id, (∀ st, o.store = some st → ∀ g ∈ gatesOfRun st runId, g.id ≠ id) →
      o'.gates.get? id = o.gates.get? id) ∧
    (a.early fault = true → o' = o) ∧
    (a.early fault = false → o'.Knows w ∧
      (o.Backed → ∀ name, o'.gates.policyFor? name =
        (o.gates.policyFor? name).or (w.policyFor? name)) ∧
      (o' = o ↔ o.Knows w ∧ o'.gates.gates = o.gates.gates)) ∧
    ((∀ id, fault ≠ .needsSource id) → o'.gates.gates = o.gates.gates) ∧
    ∀ id, fault = .needsSource id → ∃ st, o.store = some st ∧ (st.Filed → ∀ gid,
      o'.gates.get? gid = (((st.gate? gid).filter (·.runId = runId)).map (restoredGate now)).or
        (o.gates.get? gid)) := by
  rcases attempt_failed h with
    ⟨hearly, rfl⟩ | ⟨hlate, hsource, rfl⟩ | ⟨hlate, hfault, st, hst, rfl⟩
  · refine ⟨⟨rfl, rfl, rfl, rfl⟩, fun _ _ => rfl, fun _ => rfl, fun hlate => ?_, fun _ => rfl,
      fun id hneeds => ?_⟩
    · rw [hearly] at hlate
      cases hlate
    · rw [hneeds] at hearly
      cases a <;> cases hearly
  · obtain ⟨hbooks, hknows, hpolicies, hsame⟩ := leftBehind_spec o w o.gates.gates
    refine ⟨hbooks, fun _ _ => rfl, fun hearly => ?_, fun _ => ⟨hknows, hpolicies, hsame⟩,
      fun _ => rfl, fun id hneeds => absurd hneeds (hsource id)⟩
    rw [hlate] at hearly
    cases hearly
  · obtain ⟨hbooks, hknows, hpolicies, hsame⟩ := leftBehind_spec o w
      (restoreGates (o.attachPolicies w).gates (gatesOfRun st runId) now).gates
    refine ⟨hbooks, fun id hothers => ?_, fun hearly => ?_, fun _ => ⟨hknows, hpolicies, hsame⟩,
      fun hsource => absurd hfault (hsource runId), fun id _ => ⟨st, hst, fun hfiled gid => ?_⟩⟩
    · exact (get?_restoreGates_of_others (hothers st hst)).trans (get?_attachPolicies o w id)
    · rw [hlate] at hearly
      cases hearly
    · rw [← get?_attachPolicies o w gid]
      exact get?_restoreGates hfiled (o.attachPolicies w).gates runId now gid

/-! ## A resumed run without a version source -/

/-- A release, and a deployment that waits for its gate. -/
def offerWorkflow : Workflow where
  name := "offer"
  stages := [
    { name := "publish", release := true }, { name := "deploy", environment := some "production" }]

/-- Both are under way when the run is cancelled, and its end closes the gate. -/
def offerCancelled : Host :=
  let host : Host := { orchestrator := { gates := { listeners := [0] }, store := some {} } }
  (((host.launch "r1" (.start offerWorkflow {} (some (.fixed "1.2.0" none)))).settle).cancelSession 1
    "superseded").settle

/-- The attempt to take up the run without a version source. -/
def offerRefused : Orchestrator :=
  (offerCancelled.orchestrator.prepareResume offerWorkflow none "r1" 2 offerCancelled.now).1

theorem prepareResume_offerCancelled :
    offerCancelled.orchestrator.attempt offerWorkflow none "r1" 2 offerCancelled.now .resume =
      (offerRefused, .failed (.needsSource "r1")) := by
  have hrefused : (match
      (offerCancelled.orchestrator.prepareResume offerWorkflow none "r1" 2 offerCancelled.now).2 with
    | .failed (.needsSource id) => id == "r1"
    | _ => false) = true := by decide +kernel
  unfold attempt offerRefused
  dsimp only
  split at hrefused
  · rename_i id hfailed
    obtain rfl : id = "r1" := by simpa using hrefused
    rw [← hfailed]
  · cases hrefused

/-- The gate that the end of the run had closed is pending after the refusal, as the record of it is
put back; the books are as they were. -/
theorem the_refused_offer_asks_for_production :
    offerCancelled.orchestrator.attempt offerWorkflow none "r1" 2 offerCancelled.now .resume =
      (offerRefused, .failed (.needsSource "r1")) ∧
    offerRefused.store = offerCancelled.orchestrator.store ∧
    offerRefused ≠ offerCancelled.orchestrator ∧
    (offerRefused.gates.get? "r1/production").map (·.status) = some .pending := by
  have hrows : (offerCancelled.orchestrator.store.map fun st =>
      decide ((st.gates.map (·.1)).Nodup ∧ ∀ p ∈ st.gates, p.1 = p.2.id)) = some true := by
    decide +kernel
  have hrow : (offerCancelled.orchestrator.store.bind fun st => st.gate? "r1/production").map
      (fun g => (g.runId, g.actor)) = some ("r1", some runFinishedActor) := by decide +kernel
  have hclosed : (offerCancelled.orchestrator.gates.get? "r1/production").map (·.status) =
      some .rejected := by decide +kernel
  obtain ⟨⟨hstore, _⟩, _, _, _, _, hsource⟩ :=
    a_refused_run_leaves_its_policies_and_its_reopened_gates prepareResume_offerCancelled
  obtain ⟨st, hst, hgates⟩ := hsource "r1" rfl
  rw [hst] at hrows hrow
  have hfiled : decide ((st.gates.map (·.1)).Nodup ∧ ∀ p ∈ st.gates, p.1 = p.2.id) = true :=
    Option.some.inj hrows
  obtain ⟨hnodup, hkeyed⟩ := of_decide_eq_true hfiled
  obtain ⟨g, hg, hrun⟩ := Option.map_eq_some_iff.1 hrow
  have hg : st.gate? "r1/production" = some g := hg
  have hpending : (offerRefused.gates.get? "r1/production").map (·.status) = some .pending := by
    obtain ⟨hrun, hactor⟩ := Prod.mk.inj hrun
    rw [hgates ⟨hnodup, hkeyed⟩, hg]
    simp [hrun, restoredGate, hactor]
  refine ⟨prepareResume_offerCancelled, hstore, fun hsame => ?_, hpending⟩
  rw [hsame, hclosed] at hpending
  cases hpending

/-- The run is refused, and yet the gate that its end had closed is pending again. -/
theorem a_refused_resume_opens_a_closed_gate :
    offerCancelled.orchestrator.attempt offerWorkflow none "r1" 2 offerCancelled.now .resume =
      (offerRefused, .failed (.needsSource "r1")) ∧
    (offerCancelled.orchestrator.gates.get? "r1/production").map (·.status) = some .rejected ∧
    (offerRefused.gates.get? "r1/production").map (·.status) = some .pending :=
  ⟨prepareResume_offerCancelled, by decide +kernel, by decide +kernel⟩

end GatedPipeline.Orchestrator
