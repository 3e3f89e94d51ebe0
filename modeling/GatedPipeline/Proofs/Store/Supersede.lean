-- The runs of several hosts meet in one store: each is written down there, and
-- then asks the other running runs of its group to stop. The two are separate
-- steps, and others can come between. What is told here is who asks a run to
-- stop: every run of its group that asks after it was written down, whether that
-- one is newer or older.
import GatedPipeline.Proofs.Run.Launch
import GatedPipeline.Proofs.Group
namespace GatedPipeline

namespace RunStore

/-! ## What the hosts have done -/

/-- What a run does in the store. -/
inductive Deed where
  /-- A run of a group is written down. -/
  | created (run group : String)
  /-- A run asks the others of a group to stop. -/
  | superseded (run group : String)
  | ended (run : String)
  deriving DecidableEq, Repr

variable {ds before after : List Deed} {d : Deed} {group other run : String}

/-- The run that asks another one of the group to stop. -/
def Deed.asker (group run : String) : Deed → Option String
  | .superseded other g => if g = group ∧ other ≠ run then some other else none
  | _ => none

theorem Deed.asker_eq_some_iff {newer : String} :
    d.asker group run = some newer ↔ d = .superseded newer group ∧ newer ≠ run := by
  cases d with
  | superseded other g =>
    by_cases hg : g = group
    · by_cases ho : other = newer <;> simp [asker, hg, ho]
    · simp [asker, hg]
  | _ => simp [asker]

/-- The first run that asks a run of the group to stop, of all that was done since that one was
written down. When a run has ended nobody asks it any more. -/
def asker (group run : String) : List Deed → Option String
  | [] => none
  | d :: ds => if d = .ended run then none else (d.asker group run).or (asker group run ds)

theorem asker_concat :
    asker group run (ds ++ [d]) =
      if .ended run ∈ ds then asker group run ds
      else (asker group run ds).or (d.asker group run) := by
  induction ds with
  | nil =>
    by_cases hd : d = .ended run
    · simp [asker, hd, Deed.asker]
    · simp [asker, hd]
  | cons d' ds ih =>
    by_cases hd : d' = .ended run
    · simp [asker, hd]
    · by_cases he : .ended run ∈ ds <;> simp [asker, hd, Ne.symm hd, he, ih, Option.or_assoc]

/-- Nobody asks a run to stop exactly if whenever another one of its group asked it had ended. -/
theorem asker_eq_none_iff :
    asker group run ds = none ↔
      ∀ before other after, ds = before ++ .superseded other group :: after →
        other = run ∨ .ended run ∈ before := by
  induction ds with
  | nil => simp [asker]
  | cons d ds ih =>
    constructor
    · intro h before other after hs
      by_cases hd : d = .ended run
      · rcases before with _ | ⟨b, before⟩
        · simp [hd] at hs
        · exact Or.inr (by simp [← (List.cons.inj hs).1, hd])
      · rw [asker, if_neg hd, Option.or_eq_none_iff] at h
        rcases before with _ | ⟨b, before⟩
        · refine Or.inl (Classical.not_not.1 fun hne => ?_)
          simp [Deed.asker_eq_some_iff.2 ⟨(List.cons.inj hs).1, hne⟩] at h
        · exact (ih.1 h.2 before other after (List.cons.inj hs).2).imp_right
            (List.mem_cons_of_mem b)
    · intro h
      by_cases hd : d = .ended run
      · simp [asker, hd]
      · rw [asker, if_neg hd, Option.or_eq_none_iff]
        constructor
        · refine Option.eq_none_iff_forall_ne_some.2 fun newer hn => ?_
          obtain ⟨rfl, hne⟩ := Deed.asker_eq_some_iff.1 hn
          simpa [hne] using h [] newer ds rfl
        · refine ih.2 fun before other after hs => ?_
          simpa [Ne.symm hd] using h (d :: before) other after (by rw [hs, List.cons_append])

/-! ## The rows of the runs -/

section

variable {s : RunStore} {id reason : String} {status : RunStatus} {errors : List String} {now : Time}

theorem run?_supersede :
    getPair? id (s.supersede group run reason).1.runs =
      (getPair? id s.runs).map fun row =>
        if supersededBy group run id row then { row with cancelRequest := some reason } else row :=
  getPair?_map (fun id row => (if supersededBy group run id row then
    { row with cancelRequest := some reason } else row : RunRow)) id s.runs

theorem run?_finishRun :
    getPair? id (s.finishRun run status errors now).runs =
      if id = run then
        (getPair? id s.runs).map fun row => { row with status, errors, finishedAt := some now }
      else getPair? id s.runs := by
  unfold finishRun changeRun
  rcases hrow : getPair? run s.runs with _ | row
  · by_cases h : id = run
    · simp [h, hrow]
    · simp [h]
  · by_cases h : id = run
    · simp [h, hrow]
    · simp [h, getPair?_putPair_ne h]

end

/-! ## The store and what was done to it -/

/-- The store that the hosts share, and what was done to it until now. -/
structure Shared where
  store : RunStore := {}
  deeds : List Deed := []

namespace Shared

variable {c c' : Shared}

/-- What a host can do next. A run asks the others to stop after it was written down itself. What
else is written, of instances, gates and decisions, does not touch the rows of the runs. -/
inductive Step : Shared → Shared → Prop
  | create (c : Shared) {store : RunStore} (run group workflow : String) (t : Trigger) (now : Time)
      (done : c.store.createRun run t workflow group now = .ok store) :
      Step c { store, deeds := c.deeds ++ [.created run group] }
  | supersede (c : Shared) (run group : String) (created : .created run group ∈ c.deeds) :
      Step c
        { store := (c.store.supersede group run (Groups.supersededMessage run)).1,
          deeds := c.deeds ++ [.superseded run group] }
  | finish (c : Shared) (run : String) (status : RunStatus) (errors : List String) (now : Time)
      (closed : status ≠ .running) :
      Step c
        { store := c.store.finishRun run status errors now, deeds := c.deeds ++ [.ended run] }
  | elsewhere (c : Shared) (store : RunStore) (kept : store.runs = c.store.runs) :
      Step c { c with store }

/-- What the store can come to, from one without runs. -/
def Reached : Shared → Prop := Relation.ReflTransGen Step {}

/-- The row of a run, after what was done since it was written down. -/
structure Standing (run group : String) (since : List Deed) (row : RunRow) : Prop where
  own : row.group = group
  running : row.status = .running ↔ .ended run ∉ since
  asked : row.cancelRequest = (asker group run since).map Groups.supersededMessage

/-- Every run that was written down has its row. -/
def Sound (c : Shared) : Prop :=
  ∀ before run group after, c.deeds = before ++ .created run group :: after →
    ∃ row, getPair? run c.store.runs = some row ∧ Standing run group after row

variable {row : RunRow} {store : RunStore} {workflow : String} {t : Trigger} {now : Time}

/-- What others are, and what they ask of others, is nothing to a run. -/
theorem Standing.concat (h : Standing run group ds row) (he : d ≠ .ended run)
    (ha : d.asker group run = none) : Standing run group (ds ++ [d]) row where
  own := h.own
  running := by simpa [Ne.symm he] using h.running
  asked := by simpa [asker_concat, ha] using h.asked

theorem Standing.supersededBy_iff (h : Standing run group ds row) {g : String} :
    supersededBy g other run row = true ↔
      (g = group ∧ other ≠ run) ∧ .ended run ∉ ds ∧ asker group run ds = none := by
  simp only [supersededBy, h.own, h.asked, h.running, Bool.and_eq_true, decide_eq_true_eq,
    bne_iff_ne, Option.isNone_iff_eq_none, Option.map_eq_none_iff, and_assoc]
  exact and_congr eq_comm (and_congr ne_comm Iff.rfl)

/-- A run is asked by the first one that supersedes it before it has ended. -/
theorem Standing.supersede (h : Standing run group ds row) (other g : String) :
    Standing run group (ds ++ [.superseded other g])
      (if supersededBy g other run row then
        { row with cancelRequest := some (Groups.supersededMessage other) } else row) := by
  by_cases hs : supersededBy g other run row = true
  · obtain ⟨hother, he, hnone⟩ := h.supersededBy_iff.1 hs
    rw [if_pos hs]
    exact ⟨h.own, by simpa using h.running, by
      simp [asker_concat, he, hnone, Deed.asker, hother.1, hother.2]⟩
  · rw [if_neg hs]
    by_cases hother : g = group ∧ other ≠ run
    · have hsame : asker group run (ds ++ [.superseded other g]) = asker group run ds := by
        rw [asker_concat]
        split
        · rfl
        · rename_i he
          rcases ha : asker group run ds with _ | first
          · exact absurd (h.supersededBy_iff.2 ⟨hother, he, ha⟩) hs
          · rfl
      exact ⟨h.own, by simpa using h.running, by rw [hsame, h.asked]⟩
    · exact h.concat (by simp) (if_neg hother)

/-- A run that has ended runs no longer, and is asked no more. -/
theorem Standing.finish (h : Standing run group ds row) {status : RunStatus} {errors : List String}
    (closed : status ≠ .running) :
    Standing run group (ds ++ [.ended run])
      { row with status, errors, finishedAt := some now } where
  own := h.own
  running := iff_of_false closed (by simp)
  asked := by
    have hsame : asker group run (ds ++ [.ended run]) = asker group run ds := by
      rw [asker_concat]
      split <;> simp [Deed.asker]
    rw [hsame, h.asked]

theorem Sound.create (h : Sound c) {run group : String}
    (done : c.store.createRun run t workflow group now = .ok store) :
    Sound { store, deeds := c.deeds ++ [.created run group] } := by
  unfold createRun at done
  split at done
  · cases done
  · rename_i hnew
    cases done
    rw [Bool.not_eq_true, Option.isSome_eq_false_iff, Option.isNone_iff_eq_none] at hnew
    intro before run' group' after hs
    rcases Groups.concat_eq_cut.1 hs with ⟨rfl, -, hd⟩ | ⟨after', rfl, hds⟩
    · cases hd
      exact ⟨{ workflow, group, trigger := t, createdAt := now },
        by rw [getPair?_append, hnew, Option.none_or]; exact if_pos rfl, ⟨rfl, by simp, rfl⟩⟩
    · obtain ⟨row, hrow, hst⟩ := h before run' group' after' hds
      exact ⟨row, by rw [getPair?_append, hrow, Option.some_or], hst.concat (by simp) rfl⟩

theorem Sound.supersede (h : Sound c) (run group : String) :
    Sound
      { store := (c.store.supersede group run (Groups.supersededMessage run)).1,
        deeds := c.deeds ++ [.superseded run group] } := by
  intro before run' group' after hs
  rcases Groups.concat_eq_cut.1 hs with ⟨-, -, hd⟩ | ⟨after', rfl, hds⟩
  · cases hd
  · obtain ⟨row, hrow, hst⟩ := h before run' group' after' hds
    exact ⟨_, by rw [run?_supersede, hrow, Option.map_some], hst.supersede run group⟩

theorem Sound.finish (h : Sound c) (run : String) {status : RunStatus} {errors : List String}
    (closed : status ≠ .running) :
    Sound { store := c.store.finishRun run status errors now, deeds := c.deeds ++ [.ended run] } := by
  intro before run' group' after hs
  rcases Groups.concat_eq_cut.1 hs with ⟨-, -, hd⟩ | ⟨after', rfl, hds⟩
  · cases hd
  · obtain ⟨row, hrow, hst⟩ := h before run' group' after' hds
    by_cases he : run' = run
    · subst he
      exact ⟨_, by rw [run?_finishRun, if_pos rfl, hrow, Option.map_some], hst.finish closed⟩
    · exact ⟨row, by rw [run?_finishRun, if_neg he, hrow],
        hst.concat (by simp [Ne.symm he]) rfl⟩

theorem Reached.sound (h : Reached c) : Sound c := by
  induction h with
  | refl => intro before run group after hs; simp at hs
  | tail _ hs ih =>
    cases hs with
    | create run group workflow t now done => exact ih.create done
    | supersede run group created => exact ih.supersede run group
    | finish run status errors now closed => exact ih.finish run closed
    | elsewhere store kept =>
      intro before run group after hs
      rw [kept]
      exact ih before run group after hs

/-- A host that starts a run writes it down. -/
theorem Reached.start (h : Reached c) {o o' : Orchestrator} {w : Workflow}
    {source : Option VersionSource} {key : Nat} {s : Scheduler} (shared : o.store = some c.store)
    (ready : o.prepareStart w t source run key now = (o', .ready s group)) :
    ∃ store, o'.store = some store ∧
      Reached { store, deeds := c.deeds ++ [.created run group] } := by
  obtain ⟨_, _, _, _, hstore⟩ := Orchestrator.prepareStart_ready ready
  obtain ⟨store, hcreate, ho'⟩ := hstore _ shared
  exact ⟨store, ho', h.tail (.create c run group w.name _ now hcreate)⟩

/-- A host that then executes it, if it cancels others, asks the others to stop. -/
theorem Reached.enroll (h : Reached c) {o : Orchestrator} {key : Nat}
    (shared : o.store = some c.store) (created : .created run group ∈ c.deeds) :
    ∃ store, (o.enroll run group true key).1.store = some store ∧
      Reached { store, deeds := c.deeds ++ [.superseded run group] } := by
  refine ⟨_, ?_, h.tail (.supersede c run group created)⟩
  simp [Orchestrator.enroll, shared]

/-- A run is asked to stop by the first other run of its group that asks after this one was written
down, whichever of the two is newer, unless this one has ended. So of a group the run that was
written down last is spared exactly if each other one asks before that, or after it has ended. -/
theorem a_run_is_asked_by_those_that_ask_after_it_came (h : Reached c)
    (hs : c.deeds = before ++ .created run group :: after) :
    c.store.cancelRequested run = (asker group run after).map Groups.supersededMessage ∧
      (c.store.cancelRequested run = none ↔
        ∀ between other rest, after = between ++ .superseded other group :: rest →
          other = run ∨ .ended run ∈ between) := by
  obtain ⟨row, hrow, hst⟩ := h.sound before run group after hs
  have hreq : c.store.cancelRequested run =
      (asker group run after).map Groups.supersededMessage := by
    rw [cancelRequested, hrow]
    exact hst.asked
  exact ⟨hreq, by rw [hreq, Option.map_eq_none_iff, asker_eq_none_iff]⟩

/-- A run asks before the next one of its group is written down, which asks in its turn. -/
def relay : Shared :=
  let write (c : Shared) (run : String) : Shared :=
    match c.store.createRun run {} "ship" "main" 0 with
    | .ok store => { store, deeds := c.deeds ++ [.created run "main"] }
    | .error _ => c
  let ask (c : Shared) (run : String) : Shared :=
    { store := (c.store.supersede "main" run (Groups.supersededMessage run)).1,
      deeds := c.deeds ++ [.superseded run "main"] }
  ask (write (ask (write {} "r1") "r1") "r2") "r2"

theorem the_second_of_two_runs_is_spared :
    Reached relay ∧ relay.store.cancelRequested "r1" = some "superseded by run r2" ∧
      relay.store.cancelRequested "r2" = none := by
  have reached : Reached relay :=
    Relation.ReflTransGen.refl.tail (.create {} "r1" "main" "ship" {} 0 rfl)
      |>.tail (.supersede _ "r1" "main" (by decide))
      |>.tail (.create _ "r2" "main" "ship" {} 0 rfl)
      |>.tail (.supersede _ "r2" "main" (by decide))
  have older := a_run_is_asked_by_those_that_ask_after_it_came reached
    (show relay.deeds = [] ++ .created "r1" "main" ::
      [.superseded "r1" "main", .created "r2" "main", .superseded "r2" "main"] from rfl)
  have newer := a_run_is_asked_by_those_that_ask_after_it_came reached
    (show relay.deeds = [.created "r1" "main", .superseded "r1" "main"] ++
      .created "r2" "main" :: [.superseded "r2" "main"] from rfl)
  exact ⟨reached, older.1.trans rfl, newer.1.trans rfl⟩

end Shared

end RunStore

/-! ## Two hosts -/

open Scheduler (shipWorkflow)

/-- Two hosts that share a store start a run each, of one group. The second one is faster: it has
asked the others to stop before the first one comes to do so. -/
def Orchestrator.race : Option RunStore :=
  match ({ store := some {} } : Orchestrator).prepareStart shipWorkflow {} none "r1" 0 0 with
  | (first, .ready _ group) =>
    match ({ store := first.store } : Orchestrator).prepareStart shipWorkflow {} none "r2" 0 0 with
    | (second, .ready _ group') =>
      let second := (second.enroll "r2" group' shipWorkflow.cancelInProgress 0).1
      ({ first with store := second.store }.enroll "r1" group shipWorkflow.cancelInProgress 0).1.store
    | _ => none
  | _ => none

/-- Each of the two asks the other one to stop, so neither is spared. -/
theorem Orchestrator.the_older_of_two_runs_asks_the_newer_one_to_stop :
    race.map (fun store => (store.cancelRequested "r1", store.cancelRequested "r2")) =
      some (some "superseded by run r2", some "superseded by run r1") := by
  decide +kernel

end GatedPipeline
