-- What becomes of a body that keeps its contract: one that reports success
-- with every output that its stage declares. It succeeds and its outputs are
-- published, unless its instance is called like the run itself: then what it
-- writes goes to the outputs of the run, and counts as not written.
import GatedPipeline.Proofs.Run.Published
import GatedPipeline.Proofs.Run.Halt
namespace GatedPipeline

/-! ## What was written by the end -/

/-- What putting recorded successes back counts as written is theirs. -/
theorem Orchestrator.written_restoreStages (stages : List (String × StageRecord)) {r : Run}
    {q k : String} (h : (q, k) ∈ (restoreStages r stages).outputs.written) :
    (q, k) ∈ r.outputs.written ∨ (restoreStages r stages).state q = .succeeded := by
  induction stages generalizing r with
  | nil => exact Or.inl h
  | cons p stages ih =>
    obtain ⟨id, old⟩ := p
    rw [restoreStages_cons] at h ⊢
    rcases ih h with hm | hs
    · by_cases hc : ((r.graph.instance? id).isSome && old.state = .succeeded) = true
      · have hstate := @state_restoreStage _ _ old hc q
        have hout : (restoreStage r id old).outputs = r.outputs.restore id old.outputs := by
          rw [restoreStage, if_pos hc]
        rw [hout, OutputStore.written_restore] at hm
        rcases List.mem_append.1 hm with hm | hm
        · exact Or.inl hm
        · obtain ⟨kv, _, he⟩ := List.mem_map.1 hm
          rw [if_pos (Prod.mk.inj he).1.symm] at hstate
          exact Or.inr (succeeded_restoreStages stages hstate)
      · rw [restoreStage, if_neg hc] at hm
        exact Or.inl hm
    · exact Or.inr hs

/-- Putting back the release decision writes for no instance. -/
theorem Orchestrator.written_restoreDecision {r : Run} {release : Option ReleaseOutcome}
    {q k : String} (hq : q ≠ runScope) (h : (q, k) ∈ (restoreDecision r release).outputs.written) :
    (q, k) ∈ r.outputs.written := by
  rcases release with _ | o
  · exact h
  · simp only [restoreDecision, Option.elim_some, restoreRelease] at h
    split at h
    · rw [OutputStore.written_restore] at h
      rcases List.mem_append.1 h with h | h
      · exact h
      · rw [List.map_singleton] at h
        exact absurd (Prod.mk.inj (List.mem_singleton.1 h)).1 hq
    · exact h

/-- Putting back the release decision moves no instance. -/
theorem Orchestrator.state_restoreDecision (r : Run) (release : Option ReleaseOutcome)
    (q : String) : (restoreDecision r release).state q = r.state q := by
  obtain ⟨_, _, hstages, _⟩ := restoreDecision_spec r release
  rw [Run.state, Run.record, hstages, Run.state, Run.record]

namespace Scheduler

variable {g : StageGraph} {rows : List (String × StageRecord)} {release : Option ReleaseOutcome}
  {s₀ s t e : Scheduler} {id : String} {i : Instance}

/-- Whatever was written under the name of an instance was written by its end. -/
def WrittenByEnd (s : Scheduler) : Prop :=
  ∀ q k, q ≠ runScope → (q, k) ∈ s.run.outputs.written → (s.state q).isTerminal = true

/-- Only who ends writes. -/
theorem WrittenByEnd.logs (h : WrittenByEnd s) (hl : Logs s t)
    (hw : ∀ q k, q ≠ runScope → (q, k) ∈ t.run.outputs.written →
      (q, k) ∈ s.run.outputs.written ∨ (t.state q).isTerminal = true) : WrittenByEnd t := by
  intro q k hq hm
  rcases hw q k hq hm with hold | hended
  · have hended := h q k hq hold
    rw [(hl.forward q).2 hended]
    exact hended
  · exact hended

theorem WrittenByEnd.wane (h : WrittenByEnd s) (hw : Wane s t) : WrittenByEnd t := by
  refine h.logs hw.logs ?_
  intro q k hq hm
  rcases hw with ha | @⟨id, r, hl⟩
  · exact Or.inl (ha.outputs.unwritten q k hq hm)
  · obtain ⟨o, hspills, hout⟩ := hl.spills
    rw [hout] at hm
    by_cases hid : q = id
    · refine Or.inr ?_
      rw [hl.state, if_pos hid]
      exact State.isTerminal_of_isLost hl.lost
    · exact Or.inl (hspills.written q k hid hm)

theorem WrittenByEnd.rise (hf : Framed s) (h : WrittenByEnd s) (hr : Rise e s t) :
    WrittenByEnd t := by
  refine h.logs (hr.logs hf) ?_
  intro q k hq hm
  rcases hr.outputs_or_success with
    ⟨hsame, _⟩ | ⟨i, report, _, o, known, _, good, was, wrote, all, rfl⟩
  · rw [hsame] at hm
    exact Or.inl hm
  · have hspills := spills_stageOutputs i s.run.outputs report.outputs
    rw [wrote] at hspills
    have he := complete_of_success known was good wrote all
    by_cases hid : q = i.id
    · refine Or.inr ?_
      rw [he, state_putPair (s := s) _ _ rfl, if_pos hid]
      rfl
    · rw [he] at hm
      exact Or.inl (hspills.written q k hid hm)

theorem Begun.writtenByEnd (h₀ : Begun g rows release s₀) : WrittenByEnd s₀ := by
  intro q k hq hm
  cases h₀ with
  | new => cases hm
  | @resumed _ _ runId _ st _ _ _ _ _ _ _ _ _ found ready =>
    obtain ⟨g, t, _, _, ⟨engine, rfl, _⟩, _⟩ := Orchestrator.prepareResume_eq found ready
    have hback := Orchestrator.written_restoreDecision hq hm
    rcases Orchestrator.written_restoreStages _ hback with hnew | hs
    · cases hnew
    · have hsucceeded := (Orchestrator.state_restoreDecision _ (st.release? runId) q).trans hs
      exact (congrArg State.isTerminal hsucceeded).trans rfl

theorem Begun.leads_writtenByEnd (h₀ : Begun g rows release s₀) (h : Leads s₀ s) :
    WrittenByEnd s := by
  obtain ⟨hrevives, _⟩ := h₀.revives
  exact h.keeps hrevives.framed hrevives.keyed h₀.writtenByEnd (fun _ _ _ hu hw => hu.wane hw)
    fun _ _ _ hfu hu hr => hu.rise hfu hr

/-! ## A contract that is kept -/

/-- A body reports success, with every output that its stage declares, and no key twice. -/
structure Fulfils (i : Instance) (report : BodyReport) : Prop where
  good : report.status = .succeeded
  distinct : (report.outputs.map (·.1)).Nodup
  declared : ∀ k ∈ i.template.outputs, ∃ v, getPair? k report.outputs = some v

/-- A success that reports the one declared output keeps the contract. -/
theorem fulfils_of_single {report : BodyReport} {k : String} (hdeclared : i.template.outputs = [k])
    (good : report.status = .succeeded) (distinct : (report.outputs.map (·.1)).Nodup)
    (hk : (getPair? k report.outputs).isSome = true) : Fulfils i report := by
  refine ⟨good, distinct, ?_⟩
  intro l hl
  rw [hdeclared] at hl
  obtain rfl := List.mem_singleton.1 hl
  exact Option.isSome_iff_exists.1 hk

/-- What a body that keeps its contract reports can all be written, and nothing that is declared is
missing then, if the instance is not called like the run or declares nothing. -/
theorem Fulfils.wrote {o : OutputStore} {report : BodyReport} (h : Fulfils i report)
    (hended : i.id ∉ o.ended) (hnew : i.id ≠ runScope → ∀ k, (i.id, k) ∉ o.written)
    (hi : i.id ≠ runScope ∨ i.template.outputs = []) :
    ∃ o', stageOutputs i o report.outputs = (o', none) ∧
      ∀ k ∈ i.template.outputs, (getPair? k (o'.stagedOf i.id)).isSome = true := by
  rcases hi with hrun | hnothing
  · obtain ⟨o', wrote⟩ := stageOutputs_of_unwritten hended h.distinct fun k _ => hnew hrun k
    refine ⟨o', wrote, ?_⟩
    intro k hk
    obtain ⟨v, hv⟩ := h.declared k hk
    rw [(stagedOf_stageOutputs hrun wrote hk).2, hv]
    rfl
  · refine ⟨o, stageOutputs_of_no_outputs hnothing, ?_⟩
    intro k hk
    rw [hnothing] at hk
    cases hk

/-- A success publishes nothing for the run. -/
theorem publishedOf_run_of_success {report : BodyReport} {o o' : OutputStore}
    (hempty : ∀ q, o.stagedOf q = []) (wrote : stageOutputs i o report.outputs = (o', none))
    (all : ∀ k ∈ i.template.outputs, (getPair? k (o'.stagedOf i.id)).isSome = true) :
    (o'.commit i.id).publishedOf runScope = o.publishedOf runScope := by
  by_cases hrun : i.id = runScope
  · obtain rfl := unwritten_of_run hempty wrote all hrun
    rw [OutputStore.publishedOf_commit, if_pos hrun.symm, hempty, hrun]
    rfl
  · exact publishedOf_of_success (Ne.symm hrun) wrote

/-- A body keeps its contract in vain if its instance is called like the run: nothing is staged of
what it wrote, so the declared outputs count as not written. -/
theorem Takes.breach_of_run {report : BodyReport} (h : Takes s i report t)
    (hempty : ∀ q, s.run.outputs.stagedOf q = []) (good : report.status = .succeeded)
    (was : s.state i.id = .running) (hrun : i.id = runScope) (hdeclares : i.template.outputs ≠ []) :
    t.fatal = true ∧ Stopped s t (some i.id) := by
  have ho : (s.state i.id).isTerminal = false := by rw [was]; rfl
  cases h with
  | cancel error status =>
    rw [good] at status
    cases status
  | fail text message bad => exact absurd good bad
  | breach spills text =>
    refine ⟨congrArg Prod.fst (flags_abort _ text), stopped_of_breach ?_ ?_ ho _ _⟩
    · rfl
    · rfl
  | succeed _ wrote all =>
    obtain ⟨k, hk⟩ := List.exists_mem_of_ne_nil _ hdeclares
    exact absurd hrun (staged_of_success hempty wrote hk (all k hk)).1

/-! ## The law -/

/-- A body that keeps its contract succeeds, unless its instance is called like the run itself and
declares outputs: what it reported is published under its own name, the run goes on without an
error, and the outputs of the run are left alone. If it is called so, it fails although it kept its
contract, and the run is aborted: all others that have not ended are cancelled. -/
theorem a_kept_contract_is_honoured_unless_the_stage_is_called_run (h₀ : Begun g rows release s₀)
    (h : Leads s₀ s) (hi : s.graph.instance? i.id = some i) (was : s.state i.id = .running)
    {report : BodyReport} {rest : List Event} (next : s.queue = .done i.id report :: rest)
    (kept : Fulfils i report) :
    ∃ t, t = { s with queue := rest }.handle (.done i.id report) ∧ Leads s₀ t ∧
      (i.id ≠ runScope ∨ i.template.outputs = [] →
        t.state i.id = .succeeded ∧
        (∀ k ∈ i.template.outputs, ∃ v, getPair? k report.outputs = some v ∧
          t.run.outputs.peek? i.id k = some (.text v.shown)) ∧
        t.fatal = false ∧ t.run.errors = s.run.errors ∧
        (∀ k, t.run.outputs.peek? runScope k = s.run.outputs.peek? runScope k) ∧
        ∀ j, j ≠ i.id → t.state j = s.state j) ∧
      (i.id = runScope → i.template.outputs ≠ [] →
        t.state i.id = .failed ∧ t.fatal = true ∧
        ∀ j ∈ s.graph.order, (s.state j).isTerminal = false → j ≠ i.id →
          t.state j = .cancelled) := by
  obtain ⟨hrevives, hk⟩ := h₀.revives
  obtain ⟨hf, _⟩ := h.framed hrevives.framed hrevives.keyed
  have hopen : (s.state i.id).isTerminal = false := by rw [was]; rfl
  have hended := hf.unended hopen
  have hempty := (h₀.published h).staged
  refine ⟨_, rfl, h.tail (.take next), ?_, ?_⟩
  · intro hname
    have hnew : i.id ≠ runScope → ∀ k, (i.id, k) ∉ s.run.outputs.written := by
      intro hrun k hm
      rw [h₀.leads_writtenByEnd h i.id k hrun hm] at hopen
      cases hopen
    have hgoing : s.fatal = false := by
      by_contra hfatal
      have hall := Leads.allEnded hrevives.toPoised h (Or.inl (by simpa using hfatal))
      rw [hall i.id (hf.order_of_present (hf.present hi))] at hopen
      cases hopen
    obtain ⟨o, wrote, all⟩ := kept.wrote hended hnew hname
    have he := complete_of_success (s := { s with queue := rest }) hi was kept.good wrote all
    rw [handle, he]
    refine ⟨?_, ?_, hgoing, rfl, ?_, ?_⟩
    · rw [state_putPair (s := s) _ _ rfl, if_pos rfl]
      rfl
    · intro k hdeclared
      obtain ⟨_, v, hv, hseen⟩ := peek?_of_success hempty wrote hdeclared (all k hdeclared)
      exact ⟨v, hv, hseen⟩
    · intro k
      exact congrArg (getPair? k) (publishedOf_run_of_success hempty wrote all)
    · intro j hj
      rw [state_putPair (s := s) _ _ rfl, if_neg hj]
  · intro hrun hdeclares
    have htakes := takes_complete (hf.rest rest) hi was report
    obtain ⟨hfatal, hstopped⟩ := htakes.breach_of_run hempty kept.good was hrun hdeclares
    refine ⟨(hstopped.failed i.id rfl).2, hfatal, ?_⟩
    intro j hj ho hne
    exact hstopped.cancelled j hj ho fun he => hne (Option.some.inj he).symm

/-- What a body reports is all that there is to take in, if nothing else was. -/
theorem queue_endBody_of_idle {script : BodyScript} {report : BodyReport}
    (hidle : s.queue.isEmpty = true) (h : (s.endBody id script).1 = some report) :
    (s.endBody id script).2.queue = [.done id report] := by
  rw [queue_endBody h, List.isEmpty_iff.1 hidle, List.nil_append]

/-- The body of the build ends, and has written the image. -/
def shipBuilt : Scheduler := (shipStart.begin.endBody "build" .default).2

theorem leads_shipBuilt : Leads shipStart shipBuilt :=
  (leads_begin _).trans (leads_endBody _ _ _)

/-- The build of the image succeeds, and the run goes on. -/
theorem the_build_keeps_its_contract :
    Begun shipStart.graph [] none shipStart ∧ Leads shipStart shipBuilt ∧
      ∃ build report t, shipBuilt.graph.instance? "build" = some build ∧
        shipBuilt.state "build" = .running ∧ shipBuilt.queue = [.done "build" report] ∧
        Fulfils build report ∧ t = { shipBuilt with queue := [] }.handle (.done "build" report) ∧
        t.state "build" = .succeeded ∧ t.fatal = false ∧
        (t.run.outputs.peek? "build" "image").isSome = true := by
  have hreported : (shipStart.begin.endBody "build" .default).1.isSome = true := by decide +kernel
  have hidle : shipStart.begin.queue.isEmpty = true := by decide +kernel
  have hkept : ∀ report ∈ (shipStart.begin.endBody "build" .default).1,
      report.status = .succeeded ∧ (report.outputs.map (·.1)).Nodup ∧
        (getPair? "image" report.outputs).isSome = true := by decide +kernel
  have hbuild : (shipBuilt.graph.instance? "build").map (·.template.outputs) =
      some ["image"] := by decide +kernel
  have hrunning : shipBuilt.state "build" = .running := by decide +kernel
  obtain ⟨report, hreport⟩ := Option.isSome_iff_exists.1 hreported
  obtain ⟨build, hi, hdeclared⟩ := Option.map_eq_some_iff.1 hbuild
  obtain ⟨hf, _⟩ := leads_shipBuilt.framed fresh_shipStart.framed fresh_shipStart.keyed
  have hid : build.id = "build" := hf.id_eq hi
  have hqueue : shipBuilt.queue = [.done "build" report] := queue_endBody_of_idle hidle hreport
  obtain ⟨hgood, hdistinct, himage⟩ := hkept report hreport
  have hfulfils := fulfils_of_single hdeclared hgood hdistinct himage
  rw [← hid] at hi hrunning hqueue
  obtain ⟨t, ht, _, hlaw, _⟩ :=
    a_kept_contract_is_honoured_unless_the_stage_is_called_run begun_shipStart leads_shipBuilt hi
      hrunning hqueue hfulfils
  obtain ⟨hsucceeded, hseen, hgoing, _⟩ := hlaw (Or.inl (by rw [hid]; decide))
  obtain ⟨v, _, hpeek⟩ := hseen "image" (by rw [hdeclared]; exact List.mem_singleton_self _)
  rw [hid] at hi hrunning hqueue ht hsucceeded hpeek
  exact ⟨begun_shipStart, leads_shipBuilt, build, report, t, hi, hrunning, hqueue, hfulfils, ht,
    hsucceeded, hgoing, by rw [hpeek]; rfl⟩

/-! ## A stage that is called like the run -/

/-- One stage, which is called like the run and declares an output. -/
def namesakeWorkflow : Workflow where
  name := "ci"
  stages := [{ name := "run", outputs := ["x"] }]

/-- A run of it, prepared on a new host. -/
def namesakeStart : Scheduler :=
  match ({} : Orchestrator).prepareStart namesakeWorkflow {} none "r1" 0 0 with
  | (_, .ready s _) => s
  | _ => default

theorem begun_namesakeStart : Begun namesakeStart.graph [] none namesakeStart := by
  obtain ⟨_, _, ready⟩ : ∃ o group, ({} : Orchestrator).prepareStart namesakeWorkflow {} none "r1"
      0 0 = (o, .ready namesakeStart group) := Prepared.exists_ready (by decide +kernel)
  exact begun_of_prepareStart ready

/-- Its body has written the output. -/
def namesakeBuilt : Scheduler := (namesakeStart.begin.endBody "run" .default).2

/-- The stage that is called like the run fails although its body reports success with the one
output that it declares, the run is aborted, and the output is shown as one of the run. -/
theorem the_namesake_of_the_run_keeps_its_contract_in_vain :
    Begun namesakeStart.graph [] none namesakeStart ∧ Leads namesakeStart namesakeBuilt ∧
      namesakeBuilt.state "run" = .running ∧
      ∃ i report t, namesakeBuilt.graph.instance? "run" = some i ∧ i.template.outputs = ["x"] ∧
        namesakeBuilt.queue = [.done "run" report] ∧ Fulfils i report ∧
        t = { namesakeBuilt with queue := [] }.handle (.done "run" report) ∧
        t.state "run" = .failed ∧ t.fatal = true ∧
        namesakeBuilt.run.outputs.peek? runScope "x" = none ∧
        (t.run.outputs.peek? runScope "x").isSome = true := by
  have hreported : (namesakeStart.begin.endBody "run" .default).1.isSome = true := by
    decide +kernel
  have hidle : namesakeStart.begin.queue.isEmpty = true := by decide +kernel
  have hkept : ∀ report ∈ (namesakeStart.begin.endBody "run" .default).1,
      report.status = .succeeded ∧ (report.outputs.map (·.1)).Nodup ∧
        (getPair? "x" report.outputs).isSome = true := by decide +kernel
  have hafter : ∀ report ∈ (namesakeStart.begin.endBody "run" .default).1,
      (complete { namesakeBuilt with queue := [] } "run" report).state "run" = .failed ∧
        (complete { namesakeBuilt with queue := [] } "run" report).fatal = true ∧
        ((complete { namesakeBuilt with queue := [] } "run" report).run.outputs.peek? runScope
          "x").isSome = true := by decide +kernel
  have hrun : (namesakeBuilt.graph.instance? "run").map (·.template.outputs) = some ["x"] := by
    decide +kernel
  obtain ⟨report, hreport⟩ := Option.isSome_iff_exists.1 hreported
  obtain ⟨i, hi, hdeclared⟩ := Option.map_eq_some_iff.1 hrun
  have hqueue : namesakeBuilt.queue = [.done "run" report] :=
    queue_endBody_of_idle hidle hreport
  obtain ⟨hgood, hdistinct, hvalue⟩ := hkept report hreport
  obtain ⟨hfailed, hfatal, hshown⟩ := hafter report hreport
  have hfulfils := fulfils_of_single hdeclared hgood hdistinct hvalue
  exact ⟨begun_namesakeStart, (leads_begin _).trans (leads_endBody _ _ _), by decide +kernel, i,
    report, _, hi, hdeclared, hqueue, hfulfils, rfl, hfailed, hfatal, by decide +kernel, hshown⟩

end Scheduler

end GatedPipeline
