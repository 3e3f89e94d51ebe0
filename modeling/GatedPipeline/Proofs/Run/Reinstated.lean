-- The gates of a run that is taken up again. Whatever was recorded of them when
-- the run stopped, the table and the store now say the same of them, and only
-- those that the end of the run has closed are asked for anew.
import GatedPipeline.Proofs.Gate.Isolation
import GatedPipeline.Proofs.Run.Refusal
import GatedPipeline.Proofs.Store.Decisions
namespace GatedPipeline

/-! ## The recorded gates of a run -/

namespace RunStore

/-- The recorded gates of a run are the rows of the run. -/
theorem Filed.mem_gatesOfRun {s : RunStore} (h : s.Filed) {runId : String} {g : Gate} :
    g ∈ Orchestrator.gatesOfRun s runId ↔ s.gate? g.id = some g ∧ g.runId = runId := by
  rw [Orchestrator.gatesOfRun, List.mem_filter, decide_eq_true_iff]
  refine and_congr_left fun _ => ⟨fun hg => ?_, fun hg => ?_⟩
  · obtain ⟨p, hp, rfl⟩ := List.mem_map.1 hg
    rw [gate?, ← h.keyed p hp]
    exact getPair?_of_mem h.nodup hp
  · exact List.mem_map.2 ⟨_, mem_of_getPair? hg, rfl⟩

end RunStore

/-! ## Taking a run up -/

namespace Orchestrator

variable {o o' : Orchestrator} {w : Workflow} {source : Option VersionSource} {runId : String}
  {key : Nat} {now : Time} {st : RunStore}

/-- The orchestrator after it has set up a recorded run to go on, and before the run takes a step;
none when the run is refused. -/
def takeUp? (o : Orchestrator) (w : Workflow) (source : Option VersionSource) (runId : String)
    (key : Nat) (now : Time) : Option Orchestrator :=
  match o.prepareResume w source runId key now with
  | (o', .ready _ group) => some (o'.enroll runId group w.cancelInProgress key).1
  | _ => none

theorem gates_enroll (o : Orchestrator) (runId group : String) (cancelInProgress : Bool)
    (key : Nat) : (o.enroll runId group cancelInProgress key).1.gates = o.gates := by
  cases cancelInProgress <;> rfl

/-- A run that enters the books may ask others to stop, but has no gate changed. -/
theorem gate?_enroll (found : o.store = some st) (runId group : String) (cancelInProgress : Bool)
    (key : Nat) : ∃ st', (o.enroll runId group cancelInProgress key).1.store = some st' ∧
      st'.gates = st.gates := by
  cases cancelInProgress with
  | false => exact ⟨st, found, rfl⟩
  | true => exact ⟨_, congrArg (Option.map _) found, rfl⟩

/-- What taking up a run does to the table and to the store. -/
theorem takeUp?_eq_some (found : o.store = some st)
    (h : o.takeUp? w source runId key now = some o') :
    o'.gates = restoreGates (o.attachPolicies w).gates (gatesOfRun st runId) now ∧
      ∃ st', o'.store = some st' ∧ st'.gates = (st.reopenRun runId now).gates := by
  unfold takeUp? at h
  split at h
  · rename_i mid s group ready
    obtain rfl := Option.some.inj h
    obtain ⟨_, _, _, _, _, hgates, hstore⟩ := prepareResume_eq found ready
    exact ⟨(gates_enroll mid runId group w.cancelInProgress key).trans hgates,
      gate?_enroll hstore runId group w.cancelInProgress key⟩
  · cases h

/-! ## The law -/

/-- How the gates stand in the table and in the store when a run has been taken up, told by the
rows of the store before. -/
structure Reinstated (runId : String) (now : Time) (st st' : RunStore)
    (t t' : GateTable Nat) : Prop where
  /-- The table and the store have every recorded gate of the run, and say the same of it. -/
  agree : ∀ g ∈ gatesOfRun st runId, ∃ held row,
    t'.get? g.id = some held ∧ st'.gate? g.id = some row ∧
      held.status = row.status ∧ held.actor = row.actor ∧ held.comment = row.comment
  /-- What is pending, or decided in another name than that of the end, is as it was recorded. -/
  kept : ∀ g ∈ gatesOfRun st runId, g.actor ≠ some runFinishedActor →
    t'.get? g.id = some g ∧ st'.gate? g.id = some g
  /-- What the end of the run has closed is asked for anew: pending, and without a decision. -/
  reopened : ∀ g ∈ gatesOfRun st runId, g.actor = some runFinishedActor →
    let asked : Gate := { name := g.name, runId, requestedAt := now }
    t'.get? g.id = some asked ∧ st'.gate? g.id = some asked
  /-- A row that is not of the run stays. -/
  rows : ∀ id, (∀ g, st.gate? id = some g → g.runId ≠ runId) → st'.gate? id = st.gate? id
  /-- In the table only gates change that stand where recorded gates of the run belong. -/
  elsewhere : ∀ id, (∀ g ∈ gatesOfRun st runId, g.id ≠ id) → t'.get? id = t.get? id
  /-- The gates of another run stay, both in the table and in the store. -/
  others : ∀ other name, other ≠ runId → Slashless other → Slashless runId →
    t'.get? (gateId other name) = t.get? (gateId other name) ∧
      st'.gate? (gateId other name) = st.gate? (gateId other name)

/-- The table and the store make the same of a recorded gate. -/
theorem reopenedIn_of_own {g : Gate} (own : g.runId = runId) (now : Time) :
    reopenedIn runId now g = restoredGate now g := by
  unfold reopenedIn restoredGate
  by_cases ha : g.actor = some runFinishedActor
  · simp [own, ha, RunStore.reopenedGate]
  · simp [ha]

/-- What stands in the table, and in the store, under an identity when a run has been taken up. -/
theorem get?_takeUp? {st' : RunStore} (found : o.store = some st) (filed : st.Filed)
    (h : o.takeUp? w source runId key now = some o') (found' : o'.store = some st') (id : String) :
    o'.gates.get? id =
        (((st.gate? id).filter (·.runId = runId)).map (restoredGate now)).or (o.gates.get? id) ∧
      st'.gate? id = (st.gate? id).map (reopenedIn runId now) := by
  obtain ⟨hgates, st'', hst, hrows⟩ := takeUp?_eq_some found h
  obtain rfl := Option.some.inj (hst.symm.trans found')
  refine ⟨?_, ?_⟩
  · rw [hgates, gatesOfRun, get?_restoreGates filed, get?_attachPolicies]
  · rw [← RunStore.gate?_reopenRun, RunStore.gate?, hrows, RunStore.gate?]

/-- When a run has been taken up, the table and the store have each of its recorded gates, and say the
same of it: a gate that the end of the run has closed is asked for anew, and every other one is as it
was recorded. No other row changes, and in the table nothing that stands elsewhere; so the gates of
another run stay, if a slash is in the identity of neither. -/
theorem a_run_is_taken_up_with_its_gates_reinstated {cs : List (Time × RunStore.Call)}
    (found : o.store = some (({} : RunStore).calls cs))
    (h : o.takeUp? w source runId key now = some o') :
    ∃ st', o'.store = some st' ∧
      Reinstated runId now (({} : RunStore).calls cs) st' o.gates o'.gates := by
  have filed := RunStore.filed_calls cs
  generalize ({} : RunStore).calls cs = st at found filed
  obtain ⟨hgates, st', found', _⟩ := takeUp?_eq_some found h
  have hget := get?_takeUp? found filed h found'
  have hown : ∀ g ∈ gatesOfRun st runId, o'.gates.get? g.id = some (restoredGate now g) ∧
      st'.gate? g.id = some (restoredGate now g) := by
    intro g hg
    obtain ⟨hrow, hrun⟩ := filed.mem_gatesOfRun.1 hg
    obtain ⟨htable, hstore⟩ := hget g.id
    rw [htable, hstore, hrow]
    simp [hrun, reopenedIn_of_own]
  have hrows : ∀ id, (∀ g, st.gate? id = some g → g.runId ≠ runId) →
      st'.gate? id = st.gate? id := by
    intro id hforeign
    rw [(hget id).2]
    rcases hrow : st.gate? id with _ | g
    · rfl
    · simp [reopenedIn, hforeign g hrow]
  have helsewhere : ∀ id, (∀ g ∈ gatesOfRun st runId, g.id ≠ id) →
      o'.gates.get? id = o.gates.get? id := by
    intro id hfree
    rw [hgates, get?_restoreGates_of_others hfree, get?_attachPolicies]
  refine ⟨st', found', ⟨?agree, ?kept, ?reopened, hrows, helsewhere, ?others⟩⟩
  case agree =>
    intro g hg
    exact ⟨_, _, (hown g hg).1, (hown g hg).2, rfl, rfl, rfl⟩
  case kept =>
    intro g hg ha
    have hheld := hown g hg
    rwa [restoredGate, if_neg ha] at hheld
  case reopened =>
    intro g hg ha
    have hheld := hown g hg
    rwa [restoredGate, if_pos ha, (filed.mem_gatesOfRun.1 hg).2] at hheld
  case others =>
    intro other name hne hother hrunId
    have hapart : ∀ g : Gate, g.runId = runId → g.id ≠ gateId other name := by
      intro g hrun hid
      rw [Gate.id, hrun] at hid
      exact hne (gateId_inj hrunId hother hid).1.symm
    refine ⟨helsewhere _ fun g hg => hapart g (filed.mem_gatesOfRun.1 hg).2,
      hrows _ fun g hrow hrun => hapart g hrun (filed.id_of_gate? hrow)⟩

/-! ## A deployment that was interrupted -/

/-- One gate is approved, and the end of the run has closed the other one. -/
def interruptedCalls : List (Time × RunStore.Call) := [
  (1, .create "r1" {} "deploy" "main"),
  (2, .write (.gate { name := "staging", runId := "r1", requestedAt := 2 })),
  (3, .decide "r1/staging" .approved "ann" "fine"),
  (4, .write (.gate { name := "production", runId := "r1", requestedAt := 4 })),
  (5, .decide "r1/production" .rejected runFinishedActor "run finished"),
  (5, .write (.finish "r1" .cancelled []))]

def deploymentWorkflow : Workflow where
  name := "deploy"
  stages := [
    { name := "stage", environment := some "staging" },
    { name := "ship", environment := some "production" }]

/-- The table has a gate of another run only: it is that of a new process. -/
def newProcess (cs : List (Time × RunStore.Call)) (g : Gate) : Orchestrator where
  gates := { gates := [(g.id, g)] }
  store := some (({} : RunStore).calls cs)

def neighbourGate : Gate := { name := "production", runId := "r2", requestedAt := 7 }

/-- The approval stands, production is asked for again, and the other run still waits. -/
theorem the_approval_stands_and_production_is_asked_for_again :
    ∃ o' st', (newProcess interruptedCalls neighbourGate).takeUp? deploymentWorkflow none "r1" 0 9 =
        some o' ∧ o'.store = some st' ∧
      (o'.gates.get? "r1/staging").map (fun g => (g.verdict, g.comment)) =
        some ((.approved, some "ann"), "fine") ∧
      o'.gates.get? "r1/production" =
        some { name := "production", runId := "r1", requestedAt := 9 } ∧
      st'.gate? "r1/production" =
        some { name := "production", runId := "r1", requestedAt := 9 } ∧
      o'.gates.get? "r2/production" = some neighbourGate := by
  have htaken : ((newProcess interruptedCalls neighbourGate).takeUp? deploymentWorkflow none "r1" 0
      9).isSome = true := by decide +kernel
  obtain ⟨o', h⟩ := Option.isSome_iff_exists.1 htaken
  obtain ⟨st', found', hgates⟩ := a_run_is_taken_up_with_its_gates_reinstated rfl h
  have hstaging : Gate.decided { name := "staging", runId := "r1", requestedAt := 2 } .approved "ann"
      "fine" 3 ∈ gatesOfRun (({} : RunStore).calls interruptedCalls) "r1" := by decide +kernel
  have hproduction : Gate.decided { name := "production", runId := "r1", requestedAt := 4 } .rejected
      runFinishedActor "run finished" 5 ∈
        gatesOfRun (({} : RunStore).calls interruptedCalls) "r1" := by decide +kernel
  refine ⟨o', st', h, found', ?_, (hgates.reopened _ hproduction rfl).1,
    (hgates.reopened _ hproduction rfl).2, ?_⟩
  · have hkept := (hgates.kept _ hstaging (by decide)).1
    exact congrArg _ hkept
  · exact (hgates.others "r2" "production" (by decide) (by decide) (by decide)).1

/-! ## What is not told apart -/

/-- A gate with a slash in its name is approved, and another gate in the name of the end. -/
def borrowedCalls : List (Time × RunStore.Call) := [
  (1, .create "a" {} "deploy" "main"),
  (2, .write (.gate { name := "b/c", runId := "a", requestedAt := 2 })),
  (3, .decide "a/b/c" .approved "ann" ""),
  (4, .write (.gate { name := "d", runId := "a", requestedAt := 4 })),
  (5, .decide "a/d" .approved runFinishedActor "")]

/-- The run `a/b` waits for its gate `c`. -/
def slashedGate : Gate := { name := "c", runId := "a/b", requestedAt := 7 }

/-- An approval does not stand that is given in the name of the end of the run; and the gate of a run
with a slash in its identity gives way to a gate of the run that is taken up. -/
theorem a_borrowed_name_and_a_slash_are_not_told_apart :
    (¬ ∀ (o o' : Orchestrator) (cs : List (Time × RunStore.Call)) (w : Workflow)
      (source : Option VersionSource) (runId : String) (key : Nat) (now : Time),
      o.store = some (({} : RunStore).calls cs) → o.takeUp? w source runId key now = some o' →
      ∀ g ∈ gatesOfRun (({} : RunStore).calls cs) runId, g.status = .approved →
        o'.gates.get? g.id = some g) ∧
    ¬ ∀ (o o' : Orchestrator) (cs : List (Time × RunStore.Call)) (w : Workflow)
      (source : Option VersionSource) (runId : String) (key : Nat) (now : Time),
      o.store = some (({} : RunStore).calls cs) → o.takeUp? w source runId key now = some o' →
      ∀ g : Gate, g.runId ≠ runId → o.gates.get? g.id = some g →
        o'.gates.get? g.id = some g := by
  have htaken : ((newProcess borrowedCalls slashedGate).takeUp? deploymentWorkflow none "a" 0
      9).isSome = true := by decide +kernel
  have hgates : (((newProcess borrowedCalls slashedGate).takeUp? deploymentWorkflow none "a" 0 9).map
      fun o => ((o.gates.get? "a/d").map (·.status), (o.gates.get? "a/b/c").map (·.runId))) =
        some (some .pending, some "a") := by decide +kernel
  obtain ⟨o', h⟩ := Option.isSome_iff_exists.1 htaken
  rw [h] at hgates
  obtain ⟨hpending, hslashed⟩ := Prod.mk.inj (Option.some.inj hgates)
  refine ⟨fun hall => ?_, fun hall => ?_⟩
  · have hd := hall _ o' borrowedCalls deploymentWorkflow none "a" 0 9 rfl h
      (Gate.decided { name := "d", runId := "a", requestedAt := 4 } .approved runFinishedActor "" 5)
      (by decide +kernel) rfl
    rw [show o'.gates.get? "a/d" = _ from hd] at hpending
    cases hpending
  · have hc := hall _ o' borrowedCalls deploymentWorkflow none "a" 0 9 rfl h slashedGate
      (by decide) (by decide +kernel)
    rw [show o'.gates.get? "a/b/c" = _ from hc] at hslashed
    exact absurd hslashed (by decide)

end Orchestrator

end GatedPipeline
