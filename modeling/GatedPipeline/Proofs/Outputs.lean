-- What readers of the output store see after each operation, and what a
-- producer has staged once all that it reported is written.
import GatedPipeline.Run.Turn
import GatedPipeline.Proofs.Pairs
namespace GatedPipeline.OutputStore

variable {s t : OutputStore} {p q k : String} {v : Value}

/-! ## Reading -/

/-- Whoever reads without waiting is given what is published. -/
theorem read_eq_ok {consumer : Option String} :
    s.read p k consumer = .ok v ↔ s.peek? p k = some v := by
  unfold read
  split
  · rename_i w hw
    simp [hw]
  · rename_i hnone
    split <;> simp [hnone]

/-- Nothing of a producer is published when no key of it is. -/
theorem publishedOf_eq_nil : s.publishedOf p = [] ↔ ∀ k, s.peek? p k = none := by
  constructor
  · intro h k
    simp [peek?, h]
  · intro h
    rcases hp : s.publishedOf p with _ | ⟨⟨k, v⟩, rest⟩
    · rfl
    · have hk := h k
      simp [peek?, hp, getPair?] at hk

/-! ## Adding values -/

/-- The values of a producer after some were added, in a map by producer. -/
theorem getPair?_addValues (values : List (String × Value))
    (m : List (String × List (String × Value))) :
    (getPair? q (addValues p values m)).getD [] =
      if q = p then values.foldl (fun own (k, v) => putPair k v own) ((getPair? p m).getD [])
      else (getPair? q m).getD [] := by
  rw [addValues, getPair?_putPair]
  split <;> rfl

/-! ## Writing -/

/-- What an accepted write changes: the key counts as written, and the value is published if the
run itself wrote it, and staged otherwise. -/
theorem write_ok (h : s.write p k v = .ok t) :
    (p, k) ∉ s.written ∧ t.written = s.written ++ [(p, k)] ∧ t.ended = s.ended ∧
      t.published = (if p = runScope then addValues p [(k, .text v.shown)] s.published
        else s.published) ∧
      t.staged = if p = runScope then s.staged else addValues p [(k, .text v.shown)] s.staged := by
  unfold write at h
  split at h
  · cases h
  · rename_i hw
    split at h
    · cases h
    · dsimp only at h
      split at h
      · rename_i hp
        cases h
        exact ⟨by simpa using hw, rfl, rfl, by simp [hp], by simp [hp]⟩
      · rename_i hp
        cases h
        exact ⟨by simpa using hw, rfl, rfl, by simp [hp], by simp [hp]⟩

/-- A write is refused as a duplicate just if the key was written. -/
theorem write_eq_duplicate :
    s.write p k v = .error (.duplicate p k) ↔ (p, k) ∈ s.written := by
  unfold write
  split
  · rename_i hw
    simpa using hw
  · rename_i hw
    have hnot : (p, k) ∉ s.written := by simpa using hw
    split
    · simp [hnot]
    · dsimp only
      split <;> simp [hnot]

theorem write_eq_alreadyEnded : s.write p k v = .error (.alreadyEnded p k) ↔
    (p, k) ∉ s.written ∧ p ≠ runScope ∧ p ∈ s.ended := by
  unfold write
  split
  · rename_i hw
    have hwritten : (p, k) ∈ s.written := by simpa using hw
    simp [hwritten]
  · rename_i hw
    have hnot : (p, k) ∉ s.written := by simpa using hw
    split
    · rename_i he
      obtain ⟨hended, hrun⟩ : p ∈ s.ended ∧ p ≠ runScope := by simpa using he
      simp [hnot, hended, hrun]
    · rename_i he
      have hopen : ¬ (p ≠ runScope ∧ p ∈ s.ended) := by
        rintro ⟨hrun, hended⟩
        exact he (by simp [hrun, hended])
      dsimp only
      split <;> simp [hopen]

theorem write_error_cases {fault : OutputFault} (h : s.write p k v = .error fault) :
    fault = .duplicate p k ∨ fault = .alreadyEnded p k := by
  unfold write at h
  split at h
  · cases h
    exact Or.inl rfl
  · split at h
    · cases h
      exact Or.inr rfl
    · dsimp only at h
      split at h <;> cases h

/-- A write before the end of the producer is refused only because the key was written. -/
theorem write_error {fault : OutputFault} (hp : p ∉ s.ended) (h : s.write p k v = .error fault) :
    fault = .duplicate p k := by
  rcases write_error_cases h with rfl | rfl
  · rfl
  · exact absurd (write_eq_alreadyEnded.1 h).2.2 hp

/-- What was not written can be written before the end of the producer; the run itself never ends. -/
theorem write_of_unwritten (hn : (p, k) ∉ s.written) (hp : p ∉ s.ended ∨ p = runScope)
    (v : Value) : ∃ t, s.write p k v = .ok t := by
  unfold write
  rw [if_neg (by simpa using hn)]
  by_cases hrun : p = runScope
  · simp [hrun]
  · simp [hrun, hp.resolve_right hrun]

/-- A value that the run itself writes is seen at once. -/
theorem peek?_write_run (h : s.write runScope k v = .ok t) :
    t.peek? runScope k = some (.text v.shown) := by
  obtain ⟨_, _, _, hp, _⟩ := write_ok h
  rw [peek?, publishedOf, hp, if_pos rfl, getPair?_addValues]
  simp

theorem peek?_write_run_ne {l : String} (h : s.write runScope k v = .ok t) (hl : l ≠ k) :
    t.peek? runScope l = s.peek? runScope l := by
  obtain ⟨_, _, _, hp, _⟩ := write_ok h
  rw [peek?, publishedOf, hp, if_pos rfl, getPair?_addValues, if_pos rfl]
  exact getPair?_putPair_ne hl _ _

theorem publishedOf_write (h : s.write p k v = .ok t) (hq : q ≠ p ∨ p ≠ runScope) :
    t.publishedOf q = s.publishedOf q := by
  obtain ⟨_, _, _, hp, _⟩ := write_ok h
  rw [publishedOf, hp]
  split
  · rename_i hrun
    rw [getPair?_addValues, if_neg (hq.resolve_right (absurd hrun))]
    rfl
  · rfl

theorem stagedOf_write (h : s.write p k v = .ok t) :
    t.stagedOf q = if q = p ∧ p ≠ runScope then putPair k (.text v.shown) (s.stagedOf q)
      else s.stagedOf q := by
  obtain ⟨_, _, _, _, hs⟩ := write_ok h
  rw [stagedOf, hs]
  by_cases hrun : p = runScope
  · simp [hrun, stagedOf]
  · rw [if_neg hrun, getPair?_addValues]
    by_cases hq : q = p
    · simp [hq, hrun, stagedOf]
    · simp [hq, stagedOf]

/-! ## Committing -/

theorem publishedOf_commit : (s.commit p).publishedOf q =
    if q = p then (s.stagedOf p).foldl (fun own (k, v) => putPair k v own) (s.publishedOf p)
      else s.publishedOf q := getPair?_addValues (s.stagedOf p) s.published

/-- Success publishes what the producer has staged. -/
theorem peek?_commit_self (hn : ((s.stagedOf p).map (·.1)).Nodup) :
    (s.commit p).peek? p k = (getPair? k (s.stagedOf p)).or (s.peek? p k) := by
  rw [peek?, publishedOf_commit, if_pos rfl, getPair?_foldl_putPair hn]
  rfl

theorem mem_markEnded_iff : q ∈ (s.markEnded p).ended ↔ q ∈ s.ended ∨ q = p := by
  unfold markEnded
  dsimp only
  split
  · rename_i hp
    have hmem : p ∈ s.ended := by simpa using hp
    constructor
    · exact Or.inl
    · rintro (hq | rfl)
      · exact hq
      · exact hmem
  · simp

theorem mem_markEnded (h : q ∈ (s.markEnded p).ended) : q = p ∨ q ∈ s.ended :=
  (mem_markEnded_iff.1 h).symm

theorem stagedOf_discard :
    (s.discard p).stagedOf q = if q = p then [] else s.stagedOf q := by
  show (getPair? q (dropPair p s.staged)).getD [] = _
  rw [getPair?_dropPair]
  split <;> rfl

theorem stagedOf_commit :
    (s.commit p).stagedOf q = if q = p then [] else s.stagedOf q := by
  show (getPair? q (dropPair p s.staged)).getD [] = _
  rw [getPair?_dropPair]
  split <;> rfl

/-! ## Putting back -/

/-- What is put back is visible at once. -/
theorem peek?_restore {values : List (String × Value)} (hn : (values.map (·.1)).Nodup) :
    (s.restore p values).peek? q k =
      if q = p then (getPair? k values).or (s.peek? p k) else s.peek? q k := by
  have hpublished : (s.restore p values).published = addValues p values s.published := by
    unfold restore
    dsimp only
    split
    · rfl
    · unfold markEnded; rfl
  rw [peek?, publishedOf, hpublished, getPair?_addValues]
  split
  · exact getPair?_foldl_putPair hn
  · rfl

theorem stagedOf_restore {values : List (String × Value)} :
    (s.restore p values).stagedOf q = s.stagedOf q := by
  unfold restore
  dsimp only
  split
  · rfl
  · unfold markEnded; rfl

theorem written_restore {values : List (String × Value)} :
    (s.restore p values).written = s.written ++ values.map fun (k, _) => (p, k) := by
  unfold restore
  dsimp only
  split
  · rfl
  · unfold markEnded; rfl

end OutputStore

namespace Scheduler
open OutputStore

/-! ## All that a body reports -/

variable {i : Instance} {o o' : OutputStore} {reported : List (String × Value)}

/-- What writing the reported values step by step keeps, whether or not it is broken off. -/
theorem stageOutputs_induction {P : OutputStore → Prop} (h : P o)
    (hw : ∀ o o' k v, P o → k ∈ i.template.outputs → o.write i.id k v = .ok o' → P o') :
    P (stageOutputs i o reported).1 := by
  induction reported generalizing o with
  | nil => exact h
  | cons kv reported ih =>
    obtain ⟨k, v⟩ := kv
    unfold stageOutputs
    split
    · rename_i hk
      split
      · rename_i o' ho
        exact ih (hw o o' k v h (by simpa using hk) ho)
      · exact h
    · exact ih h

theorem stageOutputs_of_no_outputs (h : i.template.outputs = []) :
    stageOutputs i o reported = (o, none) := by
  induction reported with
  | nil => rfl
  | cons kv reported ih =>
    obtain ⟨k, v⟩ := kv
    simp [stageOutputs, h, ih]

theorem publishedOf_stageOutputs {q : String} (h : q ≠ i.id ∨ i.id ≠ runScope) :
    (stageOutputs i o reported).1.publishedOf q = o.publishedOf q :=
  stageOutputs_induction (P := fun u => u.publishedOf q = o.publishedOf q) rfl
    fun _ _ _ _ hu _ hw => (publishedOf_write hw h).trans hu

theorem stagedOf_stageOutputs_ne {q : String} (h : q ≠ i.id ∨ i.id = runScope) :
    (stageOutputs i o reported).1.stagedOf q = o.stagedOf q := by
  refine stageOutputs_induction (P := fun u => u.stagedOf q = o.stagedOf q) rfl ?_
  intro u u' k v hu _ hw
  rw [stagedOf_write hw, if_neg, hu]
  rintro ⟨hq, hrun⟩
  rcases h with h | h
  · exact h hq
  · exact hrun h

theorem nodup_stagedOf_stageOutputs (h : ((o.stagedOf i.id).map (·.1)).Nodup) :
    (((stageOutputs i o reported).1.stagedOf i.id).map (·.1)).Nodup := by
  refine stageOutputs_induction (P := fun u => ((u.stagedOf i.id).map (·.1)).Nodup) h ?_
  intro u u' k v hu _ hw
  rw [stagedOf_write hw]
  split
  · exact nodup_keys_putPair hu
  · exact hu

/-- Of a producer only the declared keys are staged. -/
theorem getPair?_stagedOf_undeclared {k : String} (hk : k ∉ i.template.outputs) :
    getPair? k ((stageOutputs i o reported).1.stagedOf i.id) = getPair? k (o.stagedOf i.id) := by
  refine stageOutputs_induction
    (P := fun u => getPair? k (u.stagedOf i.id) = getPair? k (o.stagedOf i.id)) rfl ?_
  intro u u' l v hu hl hw
  rw [stagedOf_write hw]
  split
  · have hne : k ≠ l := by
      rintro rfl
      exact hk hl
    rw [getPair?_putPair_ne hne, hu]
  · exact hu

/-- A body writes under the name of its own instance only. -/
theorem mem_written_stageOutputs {q k : String} (h : (q, k) ∈ (stageOutputs i o reported).1.written)
    (hq : q ≠ i.id) : (q, k) ∈ o.written := by
  refine stageOutputs_induction (P := fun u => (q, k) ∈ u.written → (q, k) ∈ o.written) id ?_ h
  intro u u' l v hu _ hw hm
  rw [(write_ok hw).2.1] at hm
  rcases List.mem_append.1 hm with hm | hm
  · exact hu hm
  · exact absurd (Prod.mk.inj (List.mem_singleton.1 hm)).1 hq

theorem ended_stageOutputs : (stageOutputs i o reported).1.ended = o.ended :=
  stageOutputs_induction (P := fun u => u.ended = o.ended) rfl
    fun _ _ _ _ hu _ hw => (write_ok hw).2.2.1.trans hu

/-- Before a producer has ended, all that can go wrong is that a key comes twice. -/
theorem duplicate_of_stageOutputs {f : OutputFault} (hi : i.id ∉ o.ended)
    (h : (stageOutputs i o reported).2 = some f) : ∃ k, f = .duplicate i.id k := by
  induction reported generalizing o with
  | nil => cases h
  | cons kv reported ih =>
    obtain ⟨k, v⟩ := kv
    unfold stageOutputs at h
    split at h
    · split at h
      · rename_i o' ho
        exact ih (by rwa [(write_ok ho).2.2.1]) h
      · rename_i fault' ho
        cases h
        exact ⟨_, write_error hi ho⟩
    · exact ih hi h

/-- Before a producer has ended, values under distinct keys of which none was written can all be
written. -/
theorem stageOutputs_of_unwritten (hi : i.id ∉ o.ended) (hn : (reported.map (·.1)).Nodup)
    (hnew : ∀ k ∈ reported.map (·.1), (i.id, k) ∉ o.written) :
    ∃ o', stageOutputs i o reported = (o', none) := by
  induction reported generalizing o with
  | nil => exact ⟨o, rfl⟩
  | cons kv reported ih =>
    obtain ⟨k, v⟩ := kv
    rw [List.map_cons, List.nodup_cons] at hn
    unfold stageOutputs
    split
    · obtain ⟨u, hu⟩ := write_of_unwritten (hnew k List.mem_cons_self) (Or.inl hi) v
      obtain ⟨_, hwritten, hended, _⟩ := write_ok hu
      rw [hu]
      refine ih (by rwa [hended]) hn.2 ?_
      intro l hl hm
      rw [hwritten] at hm
      rcases List.mem_append.1 hm with hm | hm
      · exact hnew l (List.mem_cons_of_mem _ hl) hm
      · -- the key that was just written does not come again
        obtain rfl := (Prod.mk.inj (List.mem_singleton.1 hm)).2
        exact hn.1 hl
    · exact ih hi hn.2 fun l hl => hnew l (List.mem_cons_of_mem _ hl)

/-- When all that was reported could be written, each declared key is staged with the text of the
value that was reported for it. A key that was written before is not among them. -/
theorem stagedOf_stageOutputs (hrun : i.id ≠ runScope)
    (h : stageOutputs i o reported = (o', none)) {k : String} (hk : k ∈ i.template.outputs) :
    ((i.id, k) ∈ o.written → getPair? k reported = none) ∧
      getPair? k (o'.stagedOf i.id) =
        ((getPair? k reported).map fun v => Value.text v.shown).or
          (getPair? k (o.stagedOf i.id)) := by
  induction reported generalizing o with
  | nil =>
    cases h
    exact ⟨fun _ => rfl, by simp⟩
  | cons kv reported ih =>
    obtain ⟨k', v⟩ := kv
    unfold stageOutputs at h
    split at h
    · rename_i hdeclared
      split at h
      · rename_i u hu
        obtain ⟨hnot, hgot⟩ := ih h
        obtain ⟨hfresh, hwritten, _⟩ := write_ok hu
        have hstaged := stagedOf_write (q := i.id) hu
        rw [if_pos ⟨rfl, hrun⟩] at hstaged
        rw [hstaged, getPair?_putPair] at hgot
        by_cases hkk : k' = k
        · subst hkk
          have hnone := hnot (by simp [hwritten])
          refine ⟨fun hw => absurd hw hfresh, ?_⟩
          simpa [getPair?, hnone] using hgot
        · refine ⟨fun hw => ?_, ?_⟩
          · simpa [getPair?, hkk] using hnot (by simp [hwritten, hw])
          · simpa [getPair?, hkk, Ne.symm hkk] using hgot
      · cases h
    · rename_i hdeclared
      have hkk : k' ≠ k := by
        rintro rfl
        exact hdeclared (by simpa using hk)
      simpa [getPair?, hkk] using ih h

end Scheduler

end GatedPipeline
