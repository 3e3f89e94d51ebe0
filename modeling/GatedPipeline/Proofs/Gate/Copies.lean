-- The two copies of a gate: the one in the gate table, on which its run acts,
-- and its row in the store, which others can decide. Each keeps its own first
-- decision. What can become of the two together is said in one relation.
import GatedPipeline.Store.Basic
import GatedPipeline.Proofs.Gate.Table
namespace GatedPipeline

/-- How a gate was decided, and by whom. -/
def Gate.verdict (g : Gate) : GateStatus × Option String := (g.status, g.actor)

/-- A gate that was still pending, once its run has ended. -/
def Gate.closedAt (g : Gate) (now : Time) : Gate :=
  g.decided .rejected runFinishedActor "run finished" now

@[simp] theorem Gate.status_closedAt (g : Gate) (now : Time) :
    (g.closedAt now).status = .rejected := rfl

/-- A gate as the table holds it, and as it is recorded. -/
structure Copies where
  held : Option Gate
  row : Option Gate

namespace Copies

variable {c d : Copies}

/-! ## How the copies can stand -/

/-- Both copies say the same, or neither is there. -/
def Agree (c : Copies) : Prop := c.row.map Gate.verdict = c.held.map Gate.verdict

/-- A decision is recorded for which the run still waits. -/
def Ahead (c : Copies) : Prop :=
  ∃ g r, c = ⟨some g, some r⟩ ∧ g.status = .pending ∧ r.status ≠ .pending

/-- The run has acted on one decision, and another one is recorded. -/
def Apart (c : Copies) : Prop :=
  ∃ g r, c = ⟨some g, some r⟩ ∧ g.status ≠ .pending ∧ r.status ≠ .pending ∧ r.verdict ≠ g.verdict

/-- The run does not wait for the gate. -/
def Closed (c : Copies) : Prop := ∀ g, c.held = some g → g.status ≠ .pending

theorem Ahead.not_closed (h : Ahead c) : ¬ Closed c := by
  obtain ⟨g, r, rfl, hg, _⟩ := h
  exact fun hc => hc g rfl hg

theorem Apart.not_agree (h : Apart c) : ¬ Agree c := by
  obtain ⟨g, r, rfl, _, _, hne⟩ := h
  intro ha
  exact hne (Option.some.inj ha)

theorem status_eq_of_verdict {g r : Gate} (h : r.verdict = g.verdict) : r.status = g.status :=
  congrArg Prod.fst h

/-- Copies that agree or have come apart, of a gate for which nobody waits: both are there or none,
and both are decided. -/
theorem both_of_closed (h : Agree c ∨ Apart c) (closed : Closed c) :
    c.held.isSome = c.row.isSome ∧ ∀ r, c.row = some r → r.status ≠ .pending := by
  rcases h with h | ⟨g, r, rfl, _, hr, _⟩
  · obtain ⟨held, row⟩ := c
    rcases held with _ | g <;> rcases row with _ | r
    · exact ⟨rfl, by simp⟩
    · cases h
    · cases h
    · refine ⟨rfl, fun r' hr' => ?_⟩
      cases hr'
      rw [status_eq_of_verdict (Option.some.inj h)]
      exact closed g rfl
  · exact ⟨rfl, fun r' hr' => by cases hr'; exact hr⟩

/-! ## What can become of the copies -/

/-- The row of a gate after the gate is written down. -/
def noted (g : Gate) : Option Gate → Option Gate
  | none => some g
  | some old => if old.status = .pending then some g else some old

theorem noted_noted (g : Gate) (row : Option Gate) : noted g (noted g row) = noted g row := by
  rcases row with _ | old
  · simp [noted]
  · by_cases hp : old.status = .pending
    · simp [noted, hp]
    · simp [noted, hp]

theorem noted_cases (g : Gate) (row : Option Gate) : noted g row = row ∨ noted g row = some g := by
  rcases row with _ | old
  · exact Or.inr rfl
  · by_cases hp : old.status = .pending
    · exact Or.inr (by simp [noted, hp])
    · exact Or.inl (by simp [noted, hp])

/-- What one event makes of the two copies of a gate. -/
inductive Shift : Copies → Copies → Prop
  | still (c : Copies) : Shift c c
  /-- The gate is written down as it is. -/
  | noted (g : Gate) (row : Option Gate) : Shift ⟨some g, row⟩ ⟨some g, Copies.noted g row⟩
  /-- The gate comes into the table, and is written down. -/
  | asked (g : Gate) (row : Option Gate) : Shift ⟨none, row⟩ ⟨some g, Copies.noted g row⟩
  /-- The gate is decided in the table, and written down. -/
  | decided {g g' : Gate} (row : Option Gate) (waiting : g.status = .pending)
      (settled : g'.status ≠ .pending) : Shift ⟨some g, row⟩ ⟨some g', Copies.noted g' row⟩
  /-- The row is decided by someone else. -/
  | outside (held : Option Gate) {r r' : Gate} (waiting : r.status = .pending)
      (settled : r'.status ≠ .pending) : Shift ⟨held, some r⟩ ⟨held, some r'⟩

/-- Copies that agree go on to do so, unless a decision is recorded that the run has not seen; and
then they come apart only by another decision in the table. -/
theorem Shift.next (h : Shift c d) (hc : Agree c ∨ Ahead c) :
    Agree d ∨ Ahead d ∨ (Ahead c ∧ Apart d) := by
  cases h with
  | still => exact hc.imp_right Or.inl
  | noted g row =>
    rcases hc with ha | ⟨g', r, he, hg, hr⟩
    · rcases row with _ | r
      · exact Or.inl rfl
      · by_cases hr : r.status = .pending
        · exact Or.inl (by simp [Agree, Copies.noted, hr])
        · exact Or.inl (by simpa [Agree, Copies.noted, hr] using ha)
    · cases he
      exact Or.inr (Or.inl ⟨g, r, by simp [Copies.noted, hr], hg, hr⟩)
  | asked g row =>
    rcases hc with ha | ⟨_, _, he, _⟩
    · rcases row with _ | r
      · exact Or.inl rfl
      · cases ha
    · cases he
  | @decided g g' row waiting settled =>
    rcases hc with ha | ⟨_, r, he, _, hr⟩
    · rcases row with _ | r
      · cases ha
      · have hr : r.status = .pending := (status_eq_of_verdict (Option.some.inj ha)).trans waiting
        exact Or.inl (by simp [Agree, Copies.noted, hr])
    · cases he
      have hrow : Copies.noted g' (some r) = some r := by simp [Copies.noted, hr]
      rw [hrow]
      by_cases hv : r.verdict = g'.verdict
      · exact Or.inl (congrArg some hv)
      · exact Or.inr (Or.inr ⟨⟨g, r, rfl, waiting, hr⟩, g', r, rfl, settled, hr, hv⟩)
  | @outside held r r' waiting settled =>
    rcases hc with ha | ⟨_, _, he, _, hr⟩
    · rcases held with _ | g
      · cases ha
      · have hg : g.status = .pending :=
          (status_eq_of_verdict (Option.some.inj ha)).symm.trans waiting
        exact Or.inr (Or.inl ⟨g, r', rfl, hg, settled⟩)
    · cases he
      exact absurd waiting hr

/-- Copies that have come apart stay so. -/
theorem Shift.apart (h : Shift c d) (hc : Apart c) : Apart d := by
  obtain ⟨g, r, rfl, hg, hr, hne⟩ := hc
  have hrow : ∀ g', Copies.noted g' (some r) = some r := fun g' => by simp [Copies.noted, hr]
  cases h with
  | still => exact ⟨g, r, rfl, hg, hr, hne⟩
  | noted => exact ⟨g, r, by rw [hrow], hg, hr, hne⟩
  | decided _ waiting => exact absurd waiting hg
  | outside _ waiting => exact absurd waiting hr

/-- A decision that is recorded stays recorded. -/
theorem Shift.row_of_recorded (h : Shift c d) {r : Gate} (hr : c.row = some r)
    (hd : r.status ≠ .pending) : d.row = some r := by
  have hnoted : ∀ g, Copies.noted g (some r) = some r := fun g => by simp [Copies.noted, hd]
  cases h with
  | still => exact hr
  | noted g row | asked g row | decided row => exact (congrArg (Copies.noted _) hr).trans (hnoted _)
  | outside _ waiting => exact absurd waiting (Option.some.inj hr ▸ hd)

end Copies

/-! ## The rows -/

/-- A recorded gate as it is when its run is taken up. -/
def reopenedIn (runId : String) (now : Time) (g : Gate) : Gate :=
  if g.runId = runId && g.actor = some runFinishedActor then RunStore.reopenedGate g now else g

/-- The gate that is written down. -/
def JournalWrite.gate? : JournalWrite → Option Gate
  | .gate g => some g
  | _ => none

namespace RunStore

variable {s s' : RunStore} {id runId : String} {now : Time}

/-- The row of a gate. -/
def gate? (s : RunStore) (id : String) : Option Gate := getPair? id s.gates

theorem gate?_recordGate (s : RunStore) (g : Gate) (id : String) :
    (s.recordGate g).gate? id = if id = g.id then Copies.noted g (s.gate? id) else s.gate? id := by
  unfold recordGate
  split
  · rename_i old hold
    split
    · rename_i hp
      rw [gate?, getPair?_putPair]
      split
      · rename_i hid
        rw [hid, gate?, hold]
        simp [Copies.noted, hp]
      · rfl
    · rename_i hd
      split
      · rename_i hid
        rw [hid, gate?, hold]
        simp [Copies.noted, hd]
      · rfl
  · rename_i hnone
    rw [gate?, getPair?_putPair]
    split
    · rename_i hid
      rw [hid, gate?, hnone]
      rfl
    · rfl

theorem gates_changeRun (s : RunStore) (runId : String) (f : RunRow → RunRow) :
    (s.changeRun runId f).gates = s.gates := by
  unfold changeRun
  split <;> rfl

/-- Only the writing down of a gate changes the rows of gates. -/
theorem gates_apply_of_none {w : JournalWrite} (h : w.gate? = none) :
    (s.apply now w).gates = s.gates := by
  cases w with
  | state | release => rfl
  | gate => cases h
  | finish => exact gates_changeRun s _ _

/-- If all that is written down under one identity is one gate, the row becomes what one writing
makes of it. -/
theorem gate?_foldl {ws : List JournalWrite} {g : Gate}
    (h : ∀ g' ∈ ws.filterMap JournalWrite.gate?, g'.id = id → g' = g) :
    (ws.foldl (fun s w => s.apply now w) s).gate? id =
      if g ∈ ws.filterMap JournalWrite.gate? ∧ g.id = id then Copies.noted g (s.gate? id)
      else s.gate? id := by
  induction ws generalizing s with
  | nil => simp
  | cons w ws ih =>
    rw [List.foldl_cons]
    rcases hw : w.gate? with _ | g'
    · rw [List.filterMap_cons_none hw] at h ⊢
      rw [ih h, gate?, gate?, gates_apply_of_none hw]
    · rw [List.filterMap_cons_some hw] at h ⊢
      have hrest := ih (s := s.apply now w) fun g'' hm => h g'' (List.mem_cons_of_mem _ hm)
      have hone : (s.apply now w).gate? id =
          if id = g'.id then Copies.noted g' (s.gate? id) else s.gate? id := by
        cases w with
        | gate g'' => cases hw; exact gate?_recordGate s g' id
        | state | release | finish => cases hw
      rw [hrest, hone]
      by_cases hid : g'.id = id
      · obtain rfl := h g' List.mem_cons_self hid
        simp [hid, Copies.noted_noted]
      · by_cases hg : g = g'
        · simp [hg, hid, Ne.symm hid]
        · simp [hg, Ne.symm hid]

/-- The row of a gate after some writing is the one that was there, or a gate that was written
down. -/
theorem gate?_foldl_cases (s : RunStore) (now : Time) (ws : List JournalWrite) (id : String) :
    (ws.foldl (fun s w => s.apply now w) s).gate? id = s.gate? id ∨
      ∃ g ∈ ws.filterMap JournalWrite.gate?,
        (ws.foldl (fun s w => s.apply now w) s).gate? id = some g := by
  induction ws generalizing s with
  | nil => exact Or.inl rfl
  | cons w ws ih =>
    have hone : (s.apply now w).gate? id = s.gate? id ∨
        ∃ g, w.gate? = some g ∧ (s.apply now w).gate? id = some g := by
      cases w with
      | state | release | finish => exact Or.inl (congrArg (getPair? id) (gates_apply_of_none rfl))
      | gate g =>
        have hrow : (s.recordGate g).gate? id = _ := gate?_recordGate s g id
        by_cases hid : id = g.id
        · rw [if_pos hid] at hrow
          refine (Copies.noted_cases g (s.gate? id)).imp hrow.trans fun hg => ?_
          exact ⟨g, rfl, hrow.trans hg⟩
        · exact Or.inl (hrow.trans (if_neg hid))
    rw [List.foldl_cons]
    rcases ih (s.apply now w) with hrest | ⟨g, hg, hrest⟩
    · rw [hrest]
      refine hone.imp_right fun ⟨g, hg, hrow⟩ => ⟨g, ?_, hrow⟩
      exact List.mem_filterMap.2 ⟨w, List.mem_cons_self, hg⟩
    · refine Or.inr ⟨g, ?_, hrest⟩
      obtain ⟨w', hm, hw'⟩ := List.mem_filterMap.1 hg
      exact List.mem_filterMap.2 ⟨w', List.mem_cons_of_mem _ hm, hw'⟩

/-! ## Rows when a run is written down, and when it is taken up -/

theorem gates_createRun {workflow group : String} {trigger : Trigger}
    (h : s.createRun runId trigger workflow group now = .ok s') : s'.gates = s.gates := by
  unfold createRun at h
  split at h
  · cases h
  · cases h
    rfl

theorem gates_reopenRun (s : RunStore) (runId : String) (now : Time) :
    (s.reopenRun runId now).gates = s.gates.map fun (id, g) => (id, reopenedIn runId now g) := by
  rw [reopenRun]
  dsimp only
  rw [gates_changeRun]
  rfl

theorem gate?_reopenRun (s : RunStore) (runId : String) (now : Time) (id : String) :
    (s.reopenRun runId now).gate? id = (s.gate? id).map (reopenedIn runId now) := by
  rw [gate?, gates_reopenRun]
  exact getPair?_map (fun _ g => reopenedIn runId now g) id s.gates

/-! ## Where the rows stand -/

/-- Every row of a gate stands under the identity of the gate, and under no other. -/
structure Filed (s : RunStore) : Prop where
  nodup : (s.gates.map (·.1)).Nodup
  keyed : ∀ p ∈ s.gates, p.1 = p.2.id

theorem filed_of_gates (h : s.Filed) (he : s'.gates = s.gates) : s'.Filed :=
  ⟨he ▸ h.nodup, he ▸ h.keyed⟩

theorem filed_put (h : s.Filed) {g : Gate} (hid : id = g.id)
    (he : s'.gates = putPair id g s.gates) : s'.Filed := by
  refine ⟨he ▸ nodup_keys_putPair h.nodup, fun p hp => ?_⟩
  rw [he] at hp
  rcases mem_putPair hp with rfl | hp
  · exact hid
  · exact h.keyed p hp

theorem Filed.id_of_gate? (h : s.Filed) {g : Gate} (hg : s.gate? id = some g) : g.id = id :=
  (h.keyed _ (mem_of_getPair? hg)).symm

theorem Filed.recordGate (h : s.Filed) (g : Gate) : (s.recordGate g).Filed := by
  unfold RunStore.recordGate
  split
  · split
    · exact filed_put h rfl rfl
    · exact h
  · exact filed_put h rfl rfl

theorem Filed.apply (h : s.Filed) (now : Time) (w : JournalWrite) : (s.apply now w).Filed := by
  rcases hw : w.gate? with _ | g
  · exact filed_of_gates h (gates_apply_of_none hw)
  · cases w with
    | gate => exact h.recordGate _
    | state | release | finish => cases hw

theorem Filed.reopenRun (h : s.Filed) (runId : String) (now : Time) :
    (s.reopenRun runId now).Filed := by
  refine ⟨?_, fun p hp => ?_⟩
  · rw [gates_reopenRun, List.map_map]
    exact h.nodup
  · rw [gates_reopenRun] at hp
    obtain ⟨⟨id, g⟩, hg, rfl⟩ := List.mem_map.1 hp
    have hid : (reopenedIn runId now g).id = g.id := by
      unfold reopenedIn
      split <;> rfl
    exact (h.keyed _ hg).trans hid.symm

theorem Filed.foldl (h : s.Filed) (now : Time) (ws : List JournalWrite) :
    (ws.foldl (fun s w => s.apply now w) s).Filed := by
  induction ws generalizing s with
  | nil => exact h
  | cons w ws ih => exact ih (h.apply now w)

/-- What a decision in the store makes of the rows. -/
theorem decideGate_cases {actor comment : String} {status answer : GateStatus}
    (h : s.decideGate id status actor comment now = .ok (s', answer)) :
    s' = s ∨ ∃ g, s.gate? id = some g ∧ g.status = .pending ∧
      s'.gates = putPair id (g.decided status actor comment now) s.gates := by
  unfold decideGate at h
  split at h
  · cases h
  · rename_i g hg
    split at h
    · rename_i hp
      cases h
      exact Or.inr ⟨g, hg, hp, rfl⟩
    · cases h
      exact Or.inl rfl

/-- A decision in the store leaves a row as it is, or decides it if it is pending. -/
theorem gate?_decideGate {j actor comment : String} {status answer : GateStatus}
    (h : s.decideGate j status actor comment now = .ok (s', answer)) (id : String) :
    s'.gate? id = s.gate? id ∨ ∃ g g', s.gate? id = some g ∧ g.status = .pending ∧
      s'.gate? id = some g' ∧ g'.status = status := by
  rcases decideGate_cases h with rfl | ⟨g, hg, hp, he⟩
  · exact Or.inl rfl
  · have hrow : s'.gate? id =
        if id = j then some (g.decided status actor comment now) else s.gate? id := by
      rw [gate?, he]
      exact getPair?_putPair j id _ _
    by_cases hid : id = j
    · subst hid
      exact Or.inr ⟨g, _, hg, hp, hrow.trans (if_pos rfl), rfl⟩
    · exact Or.inl (hrow.trans (if_neg hid))

theorem Filed.decideGate {actor comment : String} {status answer : GateStatus} (h : s.Filed)
    (hd : s.decideGate id status actor comment now = .ok (s', answer)) : s'.Filed := by
  rcases decideGate_cases hd with rfl | ⟨g, hg, _, he⟩
  · exact h
  · exact filed_put h (g := g.decided status actor comment now) (h.id_of_gate? hg).symm he

/-- A decided gate of a run is the row under its identity. -/
theorem Filed.gate?_of_decided (h : s.Filed) {g : Gate} (hg : g ∈ s.decidedGates runId) :
    s.gate? g.id = some g ∧ g.runId = runId ∧ g.status ≠ .pending := by
  obtain ⟨hrow, hp⟩ := List.mem_filter.1 hg
  simp only [Bool.and_eq_true, decide_eq_true_eq] at hp
  obtain ⟨⟨key, g'⟩, hm, rfl⟩ := List.mem_map.1 hrow
  have hkey : key = g'.id := h.keyed _ hm
  subst hkey
  exact ⟨getPair?_of_mem h.nodup hm, hp⟩

end RunStore

/-! ## Decisions in the table -/

namespace GateTable

variable {ι : Type} {t t' u : GateTable ι} {id j : String} {now : Time}
  {notices notices' : List (ι × Gate)}

/-- What becomes of one gate when gates are decided: nothing, or it was pending and is decided, and
this and nothing else of it is told, to every listener. -/
inductive Told (t t' : GateTable ι) (notices : List (ι × Gate)) (id : String) : Prop
  | still (same : t'.get? id = t.get? id) (silent : ∀ n ∈ notices, n.2.id ≠ id)
  | decided {g g' : Gate} (was : t.get? id = some g) (waiting : g.status = .pending)
      (is : t'.get? id = some g') (settled : g'.status ≠ .pending) (runId : g'.runId = g.runId)
      (stands : g'.id = id) (told : ∀ n ∈ notices, n.2.id = id → n.2 = g')
      (all : ∀ k ∈ t.listeners, (k, g') ∈ notices)

theorem Told.of_get? (h : Told t t' notices id) (he : u.get? id = t'.get? id) :
    Told t u notices id := by
  cases h with
  | still same silent => exact .still (he.trans same) silent
  | decided was waiting is settled runId stands told all =>
    exact .decided was waiting (he.trans is) settled runId stands told all

theorem Told.trans (h : Told t t' notices id) (h' : Told t' u notices' id)
    (hl : t'.listeners = t.listeners) : Told t u (notices ++ notices') id := by
  cases h with
  | still same silent =>
    cases h' with
    | still same' silent' =>
      exact .still (same'.trans same) fun n hn =>
        (List.mem_append.1 hn).elim (silent n) (silent' n)
    | @decided g g' was waiting is settled runId stands told all =>
      refine .decided (same ▸ was) waiting is settled runId stands (fun n hn hid => ?_) fun k hk =>
        List.mem_append_right _ (all k (hl ▸ hk))
      exact (List.mem_append.1 hn).elim (fun hn => absurd hid (silent n hn)) (told n · hid)
  | @decided g g' was waiting is settled runId stands told all =>
    cases h' with
    | still same' silent' =>
      refine .decided was waiting (same'.trans is) settled runId stands (fun n hn hid => ?_)
        fun k hk => List.mem_append_left _ (all k hk)
      exact (List.mem_append.1 hn).elim (told n · hid) fun hn => absurd hid (silent' n hn)
    | decided was' waiting' =>
      rw [is] at was'
      cases was'
      exact absurd waiting' settled

section Decision

variable {actor comment : String} {status : GateStatus} {c : GateChange ι GateStatus}

theorem listeners_decideAs (h : t.decideAs j status actor comment now = .ok c) :
    c.table.listeners = t.listeners := by
  rcases decideAs_cases h with ⟨he, _⟩ | ⟨_, _, _, he, _⟩ <;> rw [he]

theorem told_decideAs (hk : t.Keyed) (hs : status ≠ .pending)
    (h : t.decideAs j status actor comment now = .ok c) (id : String) :
    Told t c.table c.notices id := by
  rcases decideAs_cases h with ⟨ht, hn, _⟩ | ⟨g, hg, hp, ht, hn⟩
  · rw [ht, hn]
    exact .still rfl (by simp)
  · have hget : ∀ i, c.table.get? i =
        if i = j then some (g.decided status actor comment now) else t.get? i := fun i => by
      rw [ht]
      exact getPair?_putPair j i _ t.gates
    have hid : (g.decided status actor comment now).id = j := hk j g hg
    have hone : ∀ n ∈ c.notices, n.2 = g.decided status actor comment now := by
      intro n hm
      rw [hn] at hm
      obtain ⟨k, _, rfl⟩ := List.mem_map.1 hm
      rfl
    by_cases hij : id = j
    · subst hij
      refine .decided hg hp ((hget id).trans (if_pos rfl)) hs rfl hid (fun n hm _ => hone n hm)
        fun k hk => ?_
      rw [hn]
      exact List.mem_map.2 ⟨k, hk, rfl⟩
    · refine .still ((hget id).trans (if_neg hij)) fun n hm he => hij ?_
      rw [← he, hone n hm, hid]

end Decision

/-- A decision that someone can ask for is one for an end. -/
theorem outcome_ne_pending {d : Decision} {status : GateStatus}
    (h : d.outcome? = some status) : status ≠ .pending := by
  cases d with
  | words s =>
    simp only [Decision.outcome?, Decision.ofWords?] at h
    split at h
    · cases h; simp
    · split at h
      · cases h; simp
      · cases h
  | status s => cases s <;> cases h <;> simp

/-! ## The end of a run -/

theorem closeAll_cons (t : GateTable ι) (now : Time) (j : String) (ids : List String) :
    t.closeAll now (j :: ids) = t.closeAll now ids ∧ t.get? j = none ∨
      ∃ c, t.decideAs j .rejected runFinishedActor "run finished" now = .ok c ∧
        (t.closeAll now (j :: ids)).table = (c.table.closeAll now ids).table ∧
        (t.closeAll now (j :: ids)).notices = c.notices ++ (c.table.closeAll now ids).notices := by
  rcases hd : t.decideAs j .rejected runFinishedActor "run finished" now with fault | c
  · refine Or.inl ⟨by rw [closeAll, hd], ?_⟩
    unfold decideAs at hd
    split at hd
    · assumption
    · split at hd <;> cases hd
  · refine Or.inr ⟨c, rfl, ?_⟩
    rw [closeAll, hd]
    exact ⟨rfl, rfl⟩

theorem told_closeAll (hk : t.Keyed) (now : Time) (ids : List String) (id : String) :
    Told t (t.closeAll now ids).table (t.closeAll now ids).notices id := by
  induction ids generalizing t with
  | nil => exact .still rfl (by simp [closeAll])
  | cons j ids ih =>
    rcases closeAll_cons t now j ids with ⟨he, _⟩ | ⟨c, hc, ht, hn⟩
    · rw [he]
      exact ih hk
    · rw [ht, hn]
      exact (told_decideAs hk (by simp) hc id).trans (ih (keyed_decideAs now hk hc))
        (listeners_decideAs hc)

/-- A gate that is to be closed is rejected, if it is pending. Every other one stays as it is. -/
theorem get?_closeAll (t : GateTable ι) (now : Time) (ids : List String) (id : String) :
    (t.closeAll now ids).table.get? id = (t.get? id).map fun g =>
      if g.status = .pending ∧ id ∈ ids then g.closedAt now else g := by
  induction ids generalizing t with
  | nil => simp [closeAll]
  | cons j ids ih =>
    rcases closeAll_cons t now j ids with ⟨he, hnone⟩ | ⟨c, hc, ht, _⟩
    · rw [he, ih]
      by_cases hid : id = j
      · rw [hid, hnone]
        rfl
      · simp [hid]
    · rw [ht, ih]
      rcases decideAs_cases hc with ⟨he, _, g, hg, hd⟩ | ⟨g, hg, hp, he, _⟩
      · rw [he]
        by_cases hid : id = j
        · rw [hid, hg]
          simp [hd]
        · simp [hid]
      · rw [he, get?, getPair?_putPair]
        by_cases hid : id = j
        · rw [if_pos hid, hid, hg]
          simp [hp, Gate.decided, Gate.closedAt]
        · rw [if_neg hid]
          simp [get?, hid]

/-- The end of a run closes its gates. -/
theorem get?_closeRun (hk : t.Keyed) {runId : String} {g : Gate} (hg : t.get? id = some g)
    (hrun : g.runId = runId) : (t.closeRun runId now).table.get? id =
      some (if g.status = .pending then g.closedAt now else g) := by
  have hmem : g.status = .pending → id ∈ (t.pending (some runId)).map Gate.id := fun hp =>
    List.mem_map.2 ⟨g, List.mem_filter.2 ⟨List.mem_map.2 ⟨_, mem_of_getPair? hg, rfl⟩,
      by simp [hp, hrun]⟩, hk id g hg⟩
  refine (get?_closeAll t now _ id).trans ?_
  rw [hg, Option.map_some]
  by_cases hp : g.status = .pending
  · rw [if_pos hp, if_pos ⟨hp, hmem hp⟩]
  · rw [if_neg hp, if_neg fun h => hp h.1]

/-- It closes no others. -/
theorem get?_closeRun_of_foreign (t : GateTable ι) {runId : String}
    (foreign : ∀ name, id ≠ gateId runId name) :
    (t.closeRun runId now).table.get? id = t.get? id := by
  have hmem : id ∉ (t.pending (some runId)).map Gate.id := by
    intro hm
    obtain ⟨g, hg, rfl⟩ := List.mem_map.1 hm
    have hrun : runId = g.runId := by
      have hp := (List.mem_filter.1 hg).2
      simp only [Bool.and_eq_true, Option.all_some, beq_iff_eq] at hp
      exact hp.2
    exact foreign g.name (by rw [hrun]; rfl)
  refine (get?_closeAll t now _ id).trans ?_
  simp [hmem]

/-- No gate of a run is pending after its end. -/
theorem over_of_closeRun (hk : t.Keyed) {runId : String} {g g' : Gate}
    (hg : t.get? id = some g) (hrun : g.runId = runId)
    (hg' : (t.closeRun runId now).table.get? id = some g') : g'.status ≠ .pending := by
  obtain rfl := Option.some.inj ((get?_closeRun hk hg hrun).symm.trans hg')
  split
  · simp
  · assumption

end GateTable

end GatedPipeline
