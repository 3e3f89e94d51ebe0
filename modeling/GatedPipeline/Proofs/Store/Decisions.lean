-- Recorded decisions. A run and its listeners write down gates, other hosts decide
-- them, and what is written may be out of date by then. Whatever the order, a row
-- that is decided stays as it is. Only when its run is taken up again may it open,
-- and only if the end of the run had closed it.
import GatedPipeline.Proofs.Gate.Copies
namespace GatedPipeline.RunStore

variable {s : RunStore} {id : String} {now : Time} {r : Gate} {row : Option Gate}

/-! ## Calls -/

/-- What is asked of a store. -/
inductive Call where
  | create (runId : String) (trigger : Trigger) (workflow group : String)
  | write (w : JournalWrite)
  | decide (id : String) (status : GateStatus) (actor comment : String)
  | supersede (group runId reason : String)
  | reopen (runId : String)

/-- The store after a call. A call that is refused leaves it as it is. -/
def call (s : RunStore) (now : Time) : Call → RunStore
  | .create runId trigger workflow group =>
    match s.createRun runId trigger workflow group now with
    | .ok s' => s'
    | .error _ => s
  | .write w => s.apply now w
  | .decide id status actor comment =>
    match s.decideGate id status actor comment now with
    | .ok (s', _) => s'
    | .error _ => s
  | .supersede group runId reason => (s.supersede group runId reason).1
  | .reopen runId => s.reopenRun runId now

/-- The store after some calls, each at its own moment. -/
def calls (s : RunStore) (cs : List (Time × Call)) : RunStore :=
  cs.foldl (fun s (now, c) => s.call now c) s

/-! ## What a call makes of a row -/

/-- What a decision makes of a row: the first one counts. -/
def settled (status : GateStatus) (actor comment : String) (now : Time) (g : Gate) : Gate :=
  if g.status = .pending then g.decided status actor comment now else g

/-- What a call makes of the row of a gate. -/
def Call.rowAfter (id : String) (now : Time) : Call → Option Gate → Option Gate
  | .write (.gate g), row => if id = g.id then Copies.noted g row else row
  | .decide j status actor comment, row =>
    if id = j then row.map (settled status actor comment now) else row
  | .reopen runId, row => row.map (reopenedIn runId now)
  | _, row => row

/-- What comes of a decision: the row of the gate is settled, and the answer is its status. There is
no other row that changes. -/
theorem decideGate_spec (s : RunStore) (id : String) (status : GateStatus) (actor comment : String)
    (now : Time) :
    (s.gate? id = none ∧ s.decideGate id status actor comment now = .error (.unknown id)) ∨
      ∃ s' g, s.gate? id = some g ∧
        s.decideGate id status actor comment now =
          .ok (s', (settled status actor comment now g).status) ∧
        ∀ j, s'.gate? j =
          if j = id then (s.gate? j).map (settled status actor comment now) else s.gate? j := by
  unfold decideGate
  rcases hg : getPair? id s.gates with _ | g
  · exact Or.inl ⟨hg, rfl⟩
  · refine Or.inr ?_
    by_cases hp : g.status = .pending
    · refine ⟨{ s with gates := putPair id (g.decided status actor comment now) s.gates }, g, hg,
        by simp [hp, settled, Gate.decided], fun j => ?_⟩
      rw [gate?, getPair?_putPair]
      by_cases hj : j = id
      · subst hj
        simp [gate?, hg, settled, hp]
      · simp [hj, gate?]
    · refine ⟨s, g, hg, by simp [hp, settled], fun j => ?_⟩
      by_cases hj : j = id
      · subst hj
        simp [gate?, hg, settled, hp]
      · simp [hj]

/-- A row changes with the calls that are about it, and with nothing else in the store. -/
theorem gate?_call (s : RunStore) (now : Time) (c : Call) (id : String) :
    (s.call now c).gate? id = c.rowAfter id now (s.gate? id) := by
  cases c with
  | create runId trigger workflow group =>
    unfold call
    dsimp only
    split
    · rename_i s' h
      rw [gate?, gates_createRun h]
      rfl
    · rfl
  | write w =>
    cases w with
    | gate g => exact gate?_recordGate s g id
    | state | release | finish => exact congrArg (getPair? id) (gates_apply_of_none rfl)
  | decide j status actor comment =>
    unfold call Call.rowAfter
    dsimp only
    rcases decideGate_spec s j status actor comment now with ⟨hnone, h⟩ | ⟨s', g, _, h, hrow⟩
    · rw [h]
      by_cases hid : id = j
      · simp [hid, hnone]
      · simp [hid]
    · rw [h]
      exact hrow id
  | supersede => rfl
  | reopen runId => exact gate?_reopenRun s runId now id

theorem calls_cons (s : RunStore) (now : Time) (c : Call) (cs : List (Time × Call)) :
    s.calls ((now, c) :: cs) = (s.call now c).calls cs := rfl

/-! ## Where the rows stand -/

theorem Filed.call (h : s.Filed) (now : Time) (c : Call) : (s.call now c).Filed := by
  unfold RunStore.call
  split
  · split
    · rename_i hcreate
      exact filed_of_gates h (gates_createRun hcreate)
    · exact h
  · exact h.apply now _
  · split
    · rename_i hdecide
      exact h.decideGate hdecide
    · exact h
  · exact filed_of_gates h rfl
  · exact h.reopenRun _ now

/-- Whatever is asked of a store, each row of a gate stands under the identity of the gate. -/
theorem filed_calls (cs : List (Time × Call)) : (({} : RunStore).calls cs).Filed := by
  have hall : ∀ s : RunStore, s.Filed → (s.calls cs).Filed := by
    induction cs with
    | nil => exact fun _ h => h
    | cons p cs ih => exact fun s h => ih _ (h.call p.1 p.2)
  exact hall {} ⟨List.nodup_nil, by simp⟩

/-! ## What stays -/

/-- No call changes a decided row, unless it takes up the run whose end has closed the gate. -/
theorem Call.rowAfter_of_decided {c : Call} (hd : r.status ≠ .pending)
    (hopen : c = .reopen r.runId → r.actor ≠ some runFinishedActor) :
    c.rowAfter id now (some r) = some r := by
  cases c with
  | create | supersede => rfl
  | write w =>
    cases w with
    | gate g => simp [rowAfter, Copies.noted, hd]
    | state | release | finish => rfl
  | decide => simp [rowAfter, settled, hd]
  | reopen runId =>
    have hclosed : ¬ (r.runId = runId ∧ r.actor = some runFinishedActor) := by
      rintro ⟨rfl, ha⟩
      exact hopen rfl ha
    simp [rowAfter, reopenedIn, hclosed]

/-- A gate has a row from when it is written down on. -/
theorem Call.isSome_rowAfter (c : Call) :
    (c.rowAfter id now row).isSome ↔ row.isSome ∨ ∃ g, c = .write (.gate g) ∧ g.id = id := by
  cases c with
  | create | supersede => simp [rowAfter]
  | write w =>
    cases w with
    | state | release | finish => simp [rowAfter]
    | gate g =>
      by_cases hid : id = g.id
      · rcases row with _ | old
        · simp [rowAfter, hid, Copies.noted]
        · by_cases hp : old.status = .pending <;> simp [rowAfter, hid, Copies.noted, hp]
      · simp [rowAfter, hid, Ne.symm hid]
  | decide j => by_cases hid : id = j <;> simp [rowAfter, hid]
  | reopen => simp [rowAfter]

/-- The gate was written down at some moment. -/
def WrittenDown (id : String) (cs : List (Time × Call)) : Prop :=
  ∃ now g, (now, .write (.gate g)) ∈ cs ∧ g.id = id

theorem writtenDown_cons {cs : List (Time × Call)} {c : Call} :
    WrittenDown id ((now, c) :: cs) ↔
      (∃ g, c = .write (.gate g) ∧ g.id = id) ∨ WrittenDown id cs := by
  constructor
  · rintro ⟨clock, g, hm, hid⟩
    rcases List.mem_cons.1 hm with he | hm
    · exact Or.inl ⟨g, (Prod.mk.inj he).2.symm, hid⟩
    · exact Or.inr ⟨clock, g, hm, hid⟩
  · rintro (⟨g, rfl, hid⟩ | ⟨clock, g, hm, hid⟩)
    · exact ⟨now, g, List.mem_cons_self, hid⟩
    · exact ⟨clock, g, List.mem_cons_of_mem _ hm, hid⟩

theorem isSome_calls (s : RunStore) (cs : List (Time × Call)) (id : String) :
    ((s.calls cs).gate? id).isSome ↔ (s.gate? id).isSome ∨ WrittenDown id cs := by
  induction cs generalizing s with
  | nil => simp [calls, WrittenDown]
  | cons p cs ih =>
    obtain ⟨now, c⟩ := p
    rw [calls_cons, ih, gate?_call, c.isSome_rowAfter, writtenDown_cons, or_assoc]

theorem calls_of_decided {cs : List (Time × Call)} (hr : s.gate? id = some r)
    (hd : r.status ≠ .pending)
    (hopen : ∀ now, (now, .reopen r.runId) ∈ cs → r.actor ≠ some runFinishedActor) :
    (s.calls cs).gate? id = some r := by
  induction cs generalizing s with
  | nil => exact hr
  | cons p cs ih =>
    obtain ⟨now, c⟩ := p
    rw [calls_cons]
    refine ih ?_ fun clock hm => hopen clock (List.mem_cons_of_mem _ hm)
    rw [gate?_call, hr]
    exact Call.rowAfter_of_decided hd fun hc => hopen now (hc ▸ List.mem_cons_self)

/-! ## The law -/

/-- A decided row stays as it is, whatever is written, decided or superseded later. Taking up a run
opens the rows of its gates that the end of the run has closed, and changes no other row. A decision
is refused just if the gate was never written down, and then changes nothing; else it changes no
other row, and the answer is the status that the row has afterwards. -/
theorem a_recorded_decision_is_final (cs : List (Time × Call)) (id : String) :
    let s := RunStore.calls {} cs
    (∀ r more, s.gate? id = some r → r.status ≠ .pending →
      (∀ now, (now, .reopen r.runId) ∈ more → r.actor ≠ some runFinishedActor) →
      (s.calls more).gate? id = some r) ∧
    (∀ runId now, (s.call now (.reopen runId)).gate? id = (s.gate? id).map fun r =>
      if r.runId = runId ∧ r.actor = some runFinishedActor then
        { r with status := .pending, actor := none, comment := "", requestedAt := now,
                 decidedAt := none }
      else r) ∧
    ∀ status actor comment now,
      ((∃ fault, s.decideGate id status actor comment now = .error fault) ↔ ¬ WrittenDown id cs) ∧
      (¬ WrittenDown id cs → s.decideGate id status actor comment now = .error (.unknown id) ∧
        s.call now (.decide id status actor comment) = s) ∧
      ∀ s' answer, s.decideGate id status actor comment now = .ok (s', answer) →
        s.call now (.decide id status actor comment) = s' ∧
          (s'.gate? id).map Gate.status = some answer ∧
          ∀ other, other ≠ id → s'.gate? other = s.gate? other := by
  intro s
  refine ⟨fun r more hr hd hopen => calls_of_decided hr hd hopen, fun runId now => ?_,
    fun status actor comment now => ?_⟩
  · rw [gate?_call]
    refine congrArg (fun f => (s.gate? id).map f) (funext fun r => ?_)
    by_cases hc : r.runId = runId ∧ r.actor = some runFinishedActor <;>
      simp [reopenedIn, reopenedGate, hc]
  · have hsome : (s.gate? id).isSome ↔ WrittenDown id cs := by
      rw [isSome_calls]
      simp [gate?]
    rcases decideGate_spec s id status actor comment now with ⟨hnone, h⟩ | ⟨s', g, hg, h, hrow⟩
    · have hnever : ¬ WrittenDown id cs := by simp [← hsome, hnone]
      refine ⟨by simp [h, hnever], fun _ => ⟨h, by simp only [call, h]⟩, fun s' answer hok => ?_⟩
      rw [h] at hok
      cases hok
    · have hever : WrittenDown id cs := by simp [← hsome, hg]
      refine ⟨by simp [h, hever], fun hnever => absurd hever hnever, fun s'' answer hok => ?_⟩
      rw [h] at hok
      cases hok
      refine ⟨by simp only [call, h], ?_, fun other hne => ?_⟩
      · rw [hrow, if_pos rfl, hg]
        rfl
      · rw [hrow, if_neg hne]

/-- The gate of a release, as it was when it was asked for. -/
def releaseGate : Gate := { name := "prod", runId := "r1", requestedAt := 1 }

/-- The release is approved. The snapshot that the run took before comes late, and the run ends and
is taken up again: the approval stands. -/
theorem the_approval_outlives_the_late_snapshot :
    (RunStore.calls {} [(1, .write (.gate releaseGate)), (2, .decide "r1/prod" .approved "ann" ""),
        (3, .write (.gate releaseGate)), (4, .write (.finish "r1" .cancelled [])),
        (5, .reopen "r1")]).gate? "r1/prod" =
      some (releaseGate.decided .approved "ann" "" 2) := by
  refine (a_recorded_decision_is_final
    [(1, .write (.gate releaseGate)), (2, .decide "r1/prod" .approved "ann" "")] "r1/prod").1
    (releaseGate.decided .approved "ann" "" 2)
    [(3, .write (.gate releaseGate)), (4, .write (.finish "r1" .cancelled [])), (5, .reopen "r1")]
    ?_ ?_ ?_
  · decide +kernel
  · simp [Gate.decided]
  · simp [Gate.decided, runFinishedActor]

end GatedPipeline.RunStore
