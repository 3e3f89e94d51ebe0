-- What a store has of one run, after any part of its journal was carried out
-- and whatever others did to the store meanwhile.
import GatedPipeline.Store.Basic
import GatedPipeline.Proofs.Pairs
import Mathlib.Data.List.Induction
namespace GatedPipeline.RunStore

variable {s s' s₀ : RunStore} {runId other id : String} {now : Time}

/-! ## The rows of a run -/

/-- The recorded instances of a run. -/
def rows (s : RunStore) (runId : String) : List (String × StageRecord) :=
  (s.stages.filter fun p => p.1.1 = runId).map fun ((_, id), record) => (id, record)

/-- The recorded release decision of a run. -/
def release? (s : RunStore) (runId : String) : Option ReleaseOutcome := getPair? runId s.releases

/-- The trigger of a recorded run. -/
def trigger? (s : RunStore) (runId : String) : Option Trigger :=
  (getPair? runId s.runs).map (·.trigger)

/-- The workflow and the group of a recorded run, and its trigger. -/
def about? (s : RunStore) (runId : String) : Option (String × String × Trigger) :=
  (getPair? runId s.runs).map fun row => (row.workflow, row.group, row.trigger)

theorem trigger?_eq (s : RunStore) (runId : String) :
    s.trigger? runId = (s.about? runId).map (·.2.2) := by
  rw [about?, Option.map_map]
  rfl

theorem trigger_of_about (h : s'.about? runId = s.about? runId) :
    s'.trigger? runId = s.trigger? runId := by
  rw [trigger?_eq, h, trigger?_eq]

/-- What the store has of a run, but for its gates and its status. -/
structure SameRun (runId : String) (s s' : RunStore) : Prop where
  rows : s'.rows runId = s.rows runId
  release : s'.release? runId = s.release? runId
  about : s'.about? runId = s.about? runId

theorem SameRun.trigger (h : SameRun runId s s') : s'.trigger? runId = s.trigger? runId :=
  trigger_of_about h.about

theorem SameRun.refl (runId : String) (s : RunStore) : SameRun runId s s := ⟨rfl, rfl, rfl⟩

/-! ## One write -/

/-- The rows of a run after a write. -/
def rowsAfter (runId : String) (rows : List (String × StageRecord)) :
    JournalWrite → List (String × StageRecord)
  | .state owner id record => if owner = runId then putPair id record rows else rows
  | _ => rows

/-- The release decision of a run after a write. -/
def releaseAfter (runId : String) (release : Option ReleaseOutcome) :
    JournalWrite → Option ReleaseOutcome
  | .release owner outcome => if owner = runId then some outcome else release
  | _ => release

/-- A row is put among those of its own run. -/
theorem filter_putPair (owner id : String) (r : StageRecord)
    (ps : List ((String × String) × StageRecord)) :
    ((putPair (owner, id) r ps).filter fun p => p.1.1 = runId).map
        (fun ((_, id), record) => (id, record)) =
      if owner = runId then
        putPair id r ((ps.filter fun p => p.1.1 = runId).map fun ((_, id), record) => (id, record))
      else (ps.filter fun p => p.1.1 = runId).map fun ((_, id), record) => (id, record) := by
  induction ps with
  | nil => by_cases h : owner = runId <;> simp [putPair, h]
  | cons p ps ih =>
    obtain ⟨⟨owner', id'⟩, r'⟩ := p
    by_cases hkey : (owner', id') = (owner, id)
    · obtain ⟨rfl, rfl⟩ := Prod.mk.inj hkey
      by_cases h : owner' = runId <;> simp [putPair, h]
    · rw [putPair, if_neg hkey]
      by_cases h' : owner' = runId
      · subst h'
        rw [List.filter_cons_of_pos (by simp), List.map_cons, ih,
          List.filter_cons_of_pos (by simp), List.map_cons]
        by_cases h : owner = owner'
        · subst h
          have hid : id' ≠ id := fun he => hkey (by rw [he])
          simp [putPair, hid]
        · simp [h]
      · rw [List.filter_cons_of_neg (by simpa using h'), ih,
          List.filter_cons_of_neg (by simpa using h')]

theorem recordGate_stages (runId : String) (s : RunStore) (g : Gate) : SameRun runId s (s.recordGate g) := by
  unfold recordGate
  split
  · split
    · exact ⟨rfl, rfl, rfl⟩
    · exact SameRun.refl _ _
  · exact ⟨rfl, rfl, rfl⟩

/-- Changing the row of a run in other fields leaves what the run is about. -/
theorem sameRun_changeRun (runId : String) (s : RunStore) (id : String) (f : RunRow → RunRow)
    (hf : ∀ row, ((f row).workflow, (f row).group, (f row).trigger) =
      (row.workflow, row.group, row.trigger)) : SameRun runId s (s.changeRun id f) := by
  unfold changeRun
  split
  · rename_i row hrow
    refine ⟨rfl, rfl, ?_⟩
    simp only [about?, getPair?_putPair]
    split
    · rename_i hid
      rw [hid, hrow]
      exact congrArg some (hf row)
    · rfl
  · exact SameRun.refl _ _

/-- What one write makes of a run. -/
theorem apply_spec (runId : String) (s : RunStore) (now : Time) (w : JournalWrite) :
    (s.apply now w).rows runId = rowsAfter runId (s.rows runId) w ∧
      (s.apply now w).release? runId = releaseAfter runId (s.release? runId) w ∧
      (s.apply now w).about? runId = s.about? runId := by
  cases w with
  | state owner id r => exact ⟨filter_putPair owner id r s.stages, rfl, rfl⟩
  | gate g =>
    have h := recordGate_stages runId s g
    exact ⟨h.rows, h.release, h.about⟩
  | release owner o =>
    refine ⟨rfl, ?_, rfl⟩
    simp only [apply, release?, releaseAfter, getPair?_putPair, eq_comm]
  | finish owner status errors =>
    have h := sameRun_changeRun runId s owner
      (fun row => { row with status, errors, finishedAt := some now }) fun _ => rfl
    exact ⟨h.rows, h.release, h.about⟩

/-! ## What others do -/

/-- What others may do to the store while a run goes on: other runs are created and write their
journals, runs are superseded or ended or taken up again, and gates are decided. -/
inductive Aloof (runId : String) (s : RunStore) : RunStore → Prop
  | create {other workflow group : String} {trigger : Trigger} {now : Time} {s' : RunStore}
      (distinct : other ≠ runId) (h : s.createRun other trigger workflow group now = .ok s') :
      Aloof runId s s'
  | state {other id : String} (distinct : other ≠ runId) (r : StageRecord) (now : Time) :
      Aloof runId s (s.apply now (.state other id r))
  | release {other : String} (distinct : other ≠ runId) (o : ReleaseOutcome) (now : Time) :
      Aloof runId s (s.apply now (.release other o))
  | gate (g : Gate) (now : Time) : Aloof runId s (s.apply now (.gate g))
  | finish (other : String) (status : RunStatus) (errors : List String) (now : Time) :
      Aloof runId s (s.apply now (.finish other status errors))
  | reopen (other : String) (now : Time) : Aloof runId s (s.reopenRun other now)
  | supersede (group other reason : String) : Aloof runId s (s.supersede group other reason).1
  | decide {id actor comment : String} {status answer : GateStatus} {now : Time} {s' : RunStore}
      (h : s.decideGate id status actor comment now = .ok (s', answer)) : Aloof runId s s'

theorem sameRun_reopenRun (runId : String) (s : RunStore) (other : String) (now : Time) :
    SameRun runId s (s.reopenRun other now) := by
  have h := sameRun_changeRun runId s other
    (fun row => { row with status := .running, finishedAt := none, cancelRequest := none })
    fun _ => rfl
  exact ⟨h.rows, h.release, h.about⟩

theorem Aloof.sameRun (h : Aloof runId s s') : SameRun runId s s' := by
  cases h with
  | @create other workflow group trigger now _ distinct h =>
    unfold createRun at h
    split at h
    · cases h
    · cases h
      refine ⟨rfl, rfl, ?_⟩
      simp only [about?, getPair?_append, getPair?, if_neg distinct, Option.or_none]
  | @state other id distinct r now =>
    obtain ⟨hrows, hrelease, habout⟩ := s.apply_spec runId now (.state other id r)
    exact ⟨hrows.trans (if_neg distinct), hrelease, habout⟩
  | @release other distinct o now =>
    obtain ⟨hrows, hrelease, habout⟩ := s.apply_spec runId now (.release other o)
    exact ⟨hrows, hrelease.trans (if_neg distinct), habout⟩
  | gate g now =>
    obtain ⟨hrows, hrelease, habout⟩ := s.apply_spec runId now (.gate g)
    exact ⟨hrows, hrelease, habout⟩
  | finish other status errors now =>
    obtain ⟨hrows, hrelease, habout⟩ :=
      s.apply_spec runId now (.finish other status errors)
    exact ⟨hrows, hrelease, habout⟩
  | reopen other now => exact sameRun_reopenRun runId s other now
  | supersede group other reason =>
    refine ⟨rfl, rfl, ?_⟩
    have hrow := getPair?_map (fun id row => if supersededBy group other id row then
      { row with cancelRequest := some reason } else row) runId s.runs
    rw [about?, about?]
    refine (congrArg (Option.map _) hrow).trans ?_
    rw [Option.map_map]
    refine congrArg (fun f => Option.map f (getPair? runId s.runs)) (funext fun row => ?_)
    rw [Function.comp_apply]
    split <;> rfl
  | decide h =>
    unfold decideGate at h
    split at h
    · cases h
    · split at h
      · cases h; exact ⟨rfl, rfl, rfl⟩
      · cases h; exact SameRun.refl _ _

/-! ## A part of the journal -/

/-- The store after some writes of a journal were carried out, each at a time of its own, with
whatever others did in between. -/
inductive Recorded (runId : String) (s₀ : RunStore) : List JournalWrite → RunStore → Prop
  | nil : Recorded runId s₀ [] s₀
  | write {ws : List JournalWrite} {s : RunStore} (h : Recorded runId s₀ ws s) (now : Time)
      (w : JournalWrite) : Recorded runId s₀ (ws ++ [w]) (s.apply now w)
  | others {ws : List JournalWrite} {s s' : RunStore} (h : Recorded runId s₀ ws s)
      (aloof : Aloof runId s s') : Recorded runId s₀ ws s'

variable {ws : List JournalWrite}

theorem Recorded.about (h : Recorded runId s₀ ws s) : s.about? runId = s₀.about? runId := by
  induction h with
  | nil => rfl
  | write _ now w ih => exact (apply_spec runId _ now w).2.2.trans ih
  | others _ aloof ih => exact aloof.sameRun.about.trans ih

/-- What the store has of the run is what the writes have made of it. -/
theorem Recorded.spec (h : Recorded runId s₀ ws s) :
    s.rows runId = ws.foldl (rowsAfter runId) (s₀.rows runId) ∧
      s.release? runId = ws.foldl (releaseAfter runId) (s₀.release? runId) ∧
      s.trigger? runId = s₀.trigger? runId := by
  refine ⟨?_, ?_, trigger_of_about h.about⟩
  · induction h with
    | nil => rfl
    | @write ws s _ now w ih =>
      rw [(s.apply_spec runId now w).1, ih, List.foldl_append, List.foldl_cons, List.foldl_nil]
    | others _ aloof ih => exact aloof.sameRun.rows.trans ih
  · induction h with
    | nil => rfl
    | @write ws s _ now w ih =>
      rw [(s.apply_spec runId now w).2.1, ih, List.foldl_append, List.foldl_cons, List.foldl_nil]
    | others _ aloof ih => exact aloof.sameRun.release.trans ih

/-- Nobody else has to do anything. -/
theorem recorded_foldl (runId : String) (s₀ : RunStore) (now : Time) (ws : List JournalWrite) :
    Recorded runId s₀ ws (ws.foldl (fun s w => s.apply now w) s₀) := by
  induction ws using List.reverseRecOn with
  | nil => exact .nil
  | append_singleton ws w ih =>
    rw [List.foldl_append]
    exact .write ih now w

/-! ## Looking at a row -/

variable {rows : List (String × StageRecord)} {r : StageRecord}

theorem nodup_foldl_rowsAfter (h : (rows.map (·.1)).Nodup) :
    ((ws.foldl (rowsAfter runId) rows).map (·.1)).Nodup := by
  induction ws generalizing rows with
  | nil => exact h
  | cons w ws ih =>
    refine ih ?_
    cases w with
    | state =>
      simp only [rowsAfter]
      split
      · exact nodup_keys_putPair h
      · exact h
    | gate | release | finish => exact h

/-- A row that is not written stays as it is. -/
theorem row_of_unwritten (h : ∀ r, .state runId id r ∉ ws) :
    getPair? id (ws.foldl (rowsAfter runId) rows) = getPair? id rows := by
  induction ws generalizing rows with
  | nil => rfl
  | cons w ws ih =>
    rw [List.foldl_cons, ih fun r hm => h r (List.mem_cons_of_mem _ hm)]
    cases w with
    | state owner j r =>
      simp only [rowsAfter]
      split
      · rename_i howner
        subst howner
        refine getPair?_putPair_ne ?_ _ _
        rintro rfl
        exact h r List.mem_cons_self
      · rfl
    | gate | release | finish => rfl

/-- A release decision is written last, or was there before. -/
theorem written_of_release {release : Option ReleaseOutcome} {o : ReleaseOutcome}
    (h : ws.foldl (releaseAfter runId) release = some o) :
    .release runId o ∈ ws ∨ release = some o := by
  induction ws using List.reverseRecOn with
  | nil => exact Or.inr h
  | append_singleton ws w ih =>
    rw [List.foldl_append, List.foldl_cons, List.foldl_nil] at h
    have hold : ws.foldl (releaseAfter runId) release = some o →
        .release runId o ∈ ws ++ [w] ∨ release = some o :=
      fun h => (ih h).imp_left fun hm => List.mem_append_left _ hm
    cases w with
    | release owner o' =>
      simp only [releaseAfter] at h
      split at h
      · rename_i howner
        cases h
        exact Or.inl (by simp [howner])
      · exact hold h
    | state | gate | finish => exact hold h

/-- Once a release decision is there, and all that are written are the same, it stays. -/
theorem release_of_written {release : Option ReleaseOutcome} {o : ReleaseOutcome}
    (hall : ∀ o', .release runId o' ∈ ws → o' = o)
    (h : release = some o ∨ .release runId o ∈ ws) :
    ws.foldl (releaseAfter runId) release = some o := by
  induction ws generalizing release with
  | nil => exact h.resolve_right (by simp)
  | cons w ws ih =>
    refine ih (fun o' hm => hall o' (List.mem_cons_of_mem _ hm)) ?_
    cases w with
    | release owner o' =>
      simp only [releaseAfter]
      split
      · rename_i howner
        subst howner
        exact Or.inl (congrArg some (hall o' List.mem_cons_self))
      · rename_i howner
        refine h.imp_right fun hm => (List.mem_cons.1 hm).resolve_left fun he => ?_
        cases he
        exact howner rfl
    | state | gate | finish =>
      exact h.imp_right fun hm => (List.mem_cons.1 hm).resolve_left (by simp)

/-! ## Reading a run back -/

/-- A recorded run is read back as it is recorded. -/
theorem load_spec {old : PersistedRun} (h : s.load runId = .ok old) :
    old.stages = s.rows runId ∧ old.release = s.release? runId ∧
      old.gates = (s.gates.map (·.2)).filter (·.runId = runId) ∧
      s.trigger? runId = some old.row.trigger := by
  unfold load at h
  split at h
  · cases h
  · rename_i row hrow
    cases h
    exact ⟨rfl, rfl, rfl, by rw [trigger?, hrow]; rfl⟩

theorem load_of_trigger {t : Trigger} (h : s.trigger? runId = some t) :
    ∃ old, s.load runId = .ok old := by
  obtain ⟨row, hrow, _⟩ := Option.map_eq_some_iff.1 h
  unfold load
  rw [hrow]
  exact ⟨_, rfl⟩

end GatedPipeline.RunStore
