-- What a store of outputs holds after any calls. Each call adds to the history
-- of the store, and what readers see is told from the history alone: which puts
-- were accepted, and how their producers ended.
import GatedPipeline.Proofs.Outputs
import Mathlib.Data.List.Induction
namespace GatedPipeline.OutputStore

/-! ## Calls -/

/-- What a store can be asked for, apart from reading. -/
inductive Call where
  | put (producer key : String) (x : Value)
  | commit (producer : String)
  | discard (producer : String)
  | close

/-- The call ends the producer. -/
inductive Call.Ends (p : String) : Call → Prop
  | commit : Ends p (.commit p)
  | discard : Ends p (.discard p)

/-- The store after a call. A put that is refused leaves it as it is. -/
def call (s : OutputStore) : Call → OutputStore
  | .put p k x =>
    match s.write p k x with
    | .ok t => t
    | .error _ => s
  | .commit p => s.commit p
  | .discard p => s.discard p
  | .close => s.close

def calls (s : OutputStore) (cs : List Call) : OutputStore := cs.foldl call s

variable {s t : OutputStore} {cs : List Call} {c : Call} {p q k l : String} {v x y : Value}

theorem calls_concat : s.calls (cs ++ [c]) = (s.calls cs).call c := by
  unfold calls
  rw [List.foldl_append]
  rfl

theorem call_put_ok (h : s.write p k x = .ok t) : s.call (.put p k x) = t := by
  unfold call
  simp only [h]

theorem call_put_error {fault : OutputFault} (h : s.write p k x = .error fault) :
    s.call (.put p k x) = s := by
  unfold call
  simp only [h]

/-! ## What the history tells -/

/-- Among the calls on a fresh store is this put, and it was accepted. -/
def Accepted (cs : List Call) (p k : String) (x : Value) : Prop :=
  ∃ before after t, cs = before ++ .put p k x :: after ∧
    (calls {} before).write p k x = .ok t

/-- One of the calls ended the producer. -/
def Ended (cs : List Call) (p : String) : Prop := ∃ c ∈ cs, c.Ends p

/-- An accepted put was followed by the first end of its producer, which was a success. -/
def Published (cs : List Call) (p k : String) (x : Value) : Prop :=
  ∃ before after, cs = before ++ .commit p :: after ∧ Accepted before p k x ∧ ¬ Ended before p

/-- The ways to take an item out of a list with one more item. -/
theorem concat_eq_split {α : Type} {items before after : List α} {last item : α} :
    items ++ [last] = before ++ item :: after ↔
      (∃ rest, after = rest ++ [last] ∧ items = before ++ item :: rest) ∨
        (after = [] ∧ items = before ∧ last = item) := by
  constructor
  · intro h
    rcases List.eq_nil_or_concat after with rfl | ⟨rest, other, rfl⟩
    · obtain ⟨rfl, hlast⟩ := List.append_inj' h rfl
      exact Or.inr ⟨rfl, rfl, List.singleton_inj.1 hlast⟩
    · rw [List.concat_eq_append, ← List.cons_append, ← List.append_assoc] at h
      obtain ⟨rfl, hlast⟩ := List.append_inj' h rfl
      exact Or.inl ⟨rest, by rw [List.concat_eq_append, hlast], rfl⟩
  · rintro (⟨rest, rfl, rfl⟩ | ⟨rfl, rfl, rfl⟩)
    · rw [List.append_assoc, List.cons_append]
    · rfl

theorem accepted_concat : Accepted (cs ++ [c]) p k x ↔
    Accepted cs p k x ∨ (c = .put p k x ∧ ∃ t, (calls {} cs).write p k x = .ok t) := by
  unfold Accepted
  simp only [concat_eq_split]
  constructor
  · rintro ⟨before, after, t, ⟨rest, rfl, rfl⟩ | ⟨rfl, rfl, rfl⟩, ht⟩
    · exact Or.inl ⟨before, rest, t, rfl, ht⟩
    · exact Or.inr ⟨rfl, t, ht⟩
  · rintro (⟨before, rest, t, rfl, ht⟩ | ⟨rfl, t, ht⟩)
    · exact ⟨before, rest ++ [c], t, Or.inl ⟨rest, rfl, rfl⟩, ht⟩
    · exact ⟨cs, [], t, Or.inr ⟨rfl, rfl, rfl⟩, ht⟩

theorem published_concat : Published (cs ++ [c]) p k x ↔
    Published cs p k x ∨ (c = .commit p ∧ Accepted cs p k x ∧ ¬ Ended cs p) := by
  unfold Published
  simp only [concat_eq_split]
  constructor
  · rintro ⟨before, after, ⟨rest, rfl, rfl⟩ | ⟨rfl, rfl, rfl⟩, h⟩
    · exact Or.inl ⟨before, rest, rfl, h⟩
    · exact Or.inr ⟨rfl, h⟩
  · rintro (⟨before, rest, rfl, h⟩ | ⟨rfl, h⟩)
    · exact ⟨before, rest ++ [c], Or.inl ⟨rest, rfl, rfl⟩, h⟩
    · exact ⟨cs, [], Or.inr ⟨rfl, rfl, rfl⟩, h⟩

theorem ended_concat : Ended (cs ++ [c]) p ↔ Ended cs p ∨ c.Ends p := by
  simp [Ended, or_and_right, exists_or]

/-- A producer of which something is published has ended. -/
theorem Published.ended (h : Published cs p k x) : Ended cs p := by
  obtain ⟨before, after, rfl, _⟩ := h
  exact ⟨.commit p, by simp, .commit⟩

theorem Accepted.append (h : Accepted cs p k x) (more : List Call) :
    Accepted (cs ++ more) p k x := by
  obtain ⟨before, after, t, rfl, ht⟩ := h
  exact ⟨before, after ++ more, t, by simp, ht⟩

theorem Published.append (h : Published cs p k x) (more : List Call) :
    Published (cs ++ more) p k x := by
  obtain ⟨before, after, rfl, h⟩ := h
  exact ⟨before, after ++ more, by simp, h⟩

/-! ## What the store holds -/

/-- What writers see of the store is what its history tells: which keys are written, which producers
have ended, and what is staged. -/
structure Writes (cs : List Call) (s : OutputStore) : Prop where
  written (p k : String) : (p, k) ∈ s.written ↔ ∃ x, Accepted cs p k x
  ended (p : String) : p ∈ s.ended ↔ Ended cs p
  keys (p : String) : ((s.stagedOf p).map (·.1)).Nodup
  staged (p k : String) (v : Value) : getPair? k (s.stagedOf p) = some v ↔
    p ≠ runScope ∧ ¬ Ended cs p ∧ ∃ x, Accepted cs p k x ∧ Value.text x.shown = v

/-- And so is what readers see. -/
structure Tells (cs : List Call) (s : OutputStore) : Prop extends Writes cs s where
  ofRun (k : String) (v : Value) : s.peek? runScope k = some v ↔
    ∃ x, Accepted cs runScope k x ∧ Value.text x.shown = v
  ofOthers (p k : String) (v : Value) (hp : p ≠ runScope) : s.peek? p k = some v ↔
    ∃ x, Published cs p k x ∧ Value.text x.shown = v

theorem tells_nil : Tells [] {} where
  written p k := by simp [Accepted]
  ended p := by simp [Ended]
  keys p := by simp [stagedOf]
  staged p k v := by simp [stagedOf, Accepted]
  ofRun k v := by simp [peek?, publishedOf, Accepted]
  ofOthers p k v _ := by simp [peek?, publishedOf, Published]

/-- A key that has not been written was not written with any value. -/
theorem Writes.unwritten (h : Writes cs s) (hn : (p, k) ∉ s.written) : ¬ Accepted cs p k x :=
  fun hx => hn ((h.written p k).2 ⟨x, hx⟩)

/-- Nothing is staged for the run, nor for a producer that has ended. -/
theorem Writes.unstaged (h : Writes cs s) (hp : p = runScope ∨ Ended cs p) :
    getPair? k (s.stagedOf p) = none := by
  rcases hk : getPair? k (s.stagedOf p) with _ | v
  · rfl
  · obtain ⟨hrun, hopen, _⟩ := (h.staged p k v).1 hk
    rcases hp with hp | hp
    · exact absurd hp hrun
    · exact absurd hp hopen

/-! ## Calls that tell nothing -/

theorem accepted_concat_of_refused {fault : OutputFault}
    (h : (calls {} cs).write q l y = .error fault) :
    Accepted (cs ++ [.put q l y]) p k x ↔ Accepted cs p k x := by
  rw [accepted_concat]
  constructor
  · rintro (hold | ⟨heq, t, ht⟩)
    · exact hold
    · cases heq
      rw [h] at ht
      cases ht
  · exact Or.inl

/-- A call that tells nothing new, and leaves what is held. -/
theorem Tells.idle (h : Tells cs s) (hput : ∀ p k x, Accepted (cs ++ [c]) p k x ↔ Accepted cs p k x)
    (hend : ∀ p, ¬ c.Ends p) (hwritten : t.written = s.written) (hended : t.ended = s.ended)
    (hstaged : t.staged = s.staged) (hpublished : t.published = s.published) :
    Tells (cs ++ [c]) t := by
  have hends : ∀ p, Ended (cs ++ [c]) p ↔ Ended cs p := by
    intro p
    simp [ended_concat, hend p]
  have hpublish : ∀ p k x, Published (cs ++ [c]) p k x ↔ Published cs p k x := by
    intro p k x
    rw [published_concat]
    constructor
    · rintro (hold | ⟨rfl, _⟩)
      · exact hold
      · exact absurd .commit (hend p)
    · exact Or.inl
  refine ⟨⟨?_, ?_, ?_, ?_⟩, ?_, ?_⟩
  · simpa only [hput, hwritten] using h.written
  · simpa only [hends, hended] using h.ended
  · simpa only [stagedOf, hstaged] using h.keys
  · simpa only [hput, hends, stagedOf, hstaged] using h.staged
  · simpa only [hput, peek?, publishedOf, hpublished] using h.ofRun
  · simpa only [hpublish, peek?, publishedOf, hpublished] using h.ofOthers

/-! ## Puts -/

theorem ended_put : Ended (cs ++ [.put q l y]) p ↔ Ended cs p := by
  rw [ended_concat]
  apply or_iff_left
  rintro ⟨⟩

theorem published_put : Published (cs ++ [.put q l y]) p k x ↔ Published cs p k x := by
  simp [published_concat]

/-- An accepted put, when its key is another one. -/
theorem accepted_put_ne (h : ¬ (p = q ∧ k = l)) :
    Accepted (cs ++ [.put q l y]) p k x ↔ Accepted cs p k x := by
  rw [accepted_concat]
  apply or_iff_left
  rintro ⟨heq, _⟩
  cases heq
  exact h ⟨rfl, rfl⟩

/-- An accepted put is the only one of its key. -/
theorem Writes.accepted_put (h : Writes cs s) (hs : calls {} cs = s) (hw : s.write p k y = .ok t) :
    (∃ x, Accepted (cs ++ [.put p k y]) p k x ∧ Value.text x.shown = v) ↔
      Value.text y.shown = v := by
  obtain ⟨hnew, _⟩ := write_ok hw
  constructor
  · rintro ⟨x, hx, rfl⟩
    obtain ⟨heq, _⟩ := (accepted_concat.1 hx).resolve_left (h.unwritten hnew)
    cases heq
    rfl
  · intro hv
    exact ⟨y, accepted_concat.2 (Or.inr ⟨rfl, t, hs ▸ hw⟩), hv⟩

theorem Writes.put (h : Writes cs s) (hs : calls {} cs = s) (hw : s.write q l y = .ok t) :
    Writes (cs ++ [.put q l y]) t := by
  obtain ⟨hnew, hwritten, hended, _, _⟩ := write_ok hw
  refine ⟨fun p k => ?_, fun p => ?_, fun p => ?_, fun p k v => ?_⟩
  · rw [hwritten, List.mem_append, h.written, List.mem_singleton]
    by_cases hpk : p = q ∧ k = l
    · obtain ⟨rfl, rfl⟩ := hpk
      obtain ⟨x, hx, _⟩ := (h.accepted_put hs hw).2 rfl
      have hmade : ∃ x, Accepted (cs ++ [.put p k y]) p k x := ⟨x, hx⟩
      simp [hmade]
    · simp only [accepted_put_ne hpk, Prod.mk.injEq, hpk, or_false]
  · rw [hended, h.ended, ended_put]
  · rw [stagedOf_write hw]
    split
    · exact nodup_keys_putPair (h.keys p)
    · exact h.keys p
  · rw [stagedOf_write hw, ended_put]
    by_cases hpq : p = q ∧ q ≠ runScope
    · obtain ⟨rfl, hrun⟩ := hpq
      -- after the end of its producer the put would have been refused
      have hopen : ¬ Ended cs p := by
        intro hp
        have hrefused := (@write_eq_alreadyEnded s p l y).2 ⟨hnew, hrun, (h.ended p).2 hp⟩
        rw [hw] at hrefused
        cases hrefused
      rw [if_pos ⟨rfl, hrun⟩]
      by_cases hk : k = l
      · subst hk
        rw [getPair?_putPair_self, h.accepted_put hs hw]
        simp [hrun, hopen]
      · have hne : ¬ (p = p ∧ k = l) := fun hpk => hk hpk.2
        rw [getPair?_putPair_ne hk, h.staged]
        simp only [accepted_put_ne hne]
    · rw [if_neg hpq, h.staged]
      apply and_congr_right
      intro hp
      have hne : ¬ (p = q ∧ k = l) := by
        rintro ⟨rfl, _⟩
        exact hpq ⟨rfl, hp⟩
      simp only [accepted_put_ne hne]

/-- An accepted put adds one value, under a key that had none. -/
theorem Tells.put (h : Tells cs s) (hs : calls {} cs = s) (hw : s.write q l y = .ok t) :
    Tells (cs ++ [.put q l y]) t := by
  refine ⟨h.toWrites.put hs hw, fun k v => ?_, fun p k v hp => ?_⟩
  · by_cases hpk : runScope = q ∧ k = l
    · obtain ⟨rfl, rfl⟩ := hpk
      rw [peek?_write_run hw, h.accepted_put hs hw, Option.some.injEq]
    · have hkept : t.peek? runScope k = s.peek? runScope k := by
        by_cases hq : runScope = q
        · subst hq
          exact peek?_write_run_ne hw fun hk => hpk ⟨rfl, hk⟩
        · rw [peek?, publishedOf_write hw (Or.inl hq), peek?]
      rw [hkept, h.ofRun]
      simp only [accepted_put_ne hpk]
  · have hkept : t.peek? p k = s.peek? p k := by
      have hne : p ≠ q ∨ q ≠ runScope := by
        by_cases hq : q = runScope
        · exact Or.inl (hq ▸ hp)
        · exact Or.inr hq
      rw [peek?, publishedOf_write hw hne, peek?]
    rw [hkept, h.ofOthers p k v hp]
    simp only [published_put]

/-! ## Ends -/

theorem Call.Ends.eq (h : c.Ends q) (h' : c.Ends p) : p = q := by
  cases h with
  | commit =>
    cases h'
    rfl
  | discard =>
    cases h'
    rfl

theorem accepted_end (hc : c.Ends q) : Accepted (cs ++ [c]) p k x ↔ Accepted cs p k x := by
  rw [accepted_concat]
  apply or_iff_left
  rintro ⟨rfl, _⟩
  cases hc

/-- However a producer ends, nothing stays staged for it. -/
theorem Writes.ending (h : Writes cs s) (hc : c.Ends q) (hwritten : t.written = s.written)
    (hended : ∀ p, p ∈ t.ended ↔ p ∈ s.ended ∨ p = q)
    (hstaged : ∀ p, t.stagedOf p = if p = q then [] else s.stagedOf p) :
    Writes (cs ++ [c]) t := by
  have hends : ∀ p, Ended (cs ++ [c]) p ↔ Ended cs p ∨ p = q := by
    intro p
    rw [ended_concat]
    apply or_congr_right
    constructor
    · exact hc.eq
    · rintro rfl
      exact hc
  refine ⟨fun p k => ?_, fun p => ?_, fun p => ?_, fun p k v => ?_⟩
  · rw [hwritten, h.written]
    simp only [accepted_end hc]
  · rw [hended, h.ended, hends]
  · rw [hstaged]
    split
    · simp
    · exact h.keys p
  · rw [hstaged, hends]
    split
    · rename_i hpq
      simp [hpq]
    · rename_i hpq
      simpa only [accepted_end hc, hpq, or_false] using h.staged p k v

/-- Success publishes what is staged. Of a producer that had ended nothing is, so only its first end
counts. -/
theorem Tells.commit (h : Tells cs s) : Tells (cs ++ [.commit q]) (s.commit q) := by
  have hwrites := h.toWrites.ending (.commit (p := q)) (t := s.commit q) rfl
    (fun p => mem_markEnded_iff) (fun p => stagedOf_commit)
  refine ⟨hwrites, fun k v => ?_, fun p k v hp => ?_⟩
  · have hkept : (s.commit q).peek? runScope k = s.peek? runScope k := by
      by_cases hq : q = runScope
      · -- what the run writes is never staged, so there is nothing to publish
        subst hq
        rw [peek?_commit_self (h.keys _), h.unstaged (Or.inl rfl), Option.none_or]
      · rw [peek?, publishedOf_commit, if_neg (Ne.symm hq), peek?]
    rw [hkept, h.ofRun]
    simp only [accepted_end .commit]
  · by_cases hpq : p = q
    · subst hpq
      rw [peek?_commit_self (h.keys p), Option.or_eq_some_iff, h.staged, h.ofOthers p k v hp]
      constructor
      · rintro (⟨_, hopen, x, hx, hv⟩ | ⟨_, x, hx, hv⟩)
        · exact ⟨x, published_concat.2 (Or.inr ⟨rfl, hx, hopen⟩), hv⟩
        · exact ⟨x, published_concat.2 (Or.inl hx), hv⟩
      · rintro ⟨x, hx, hv⟩
        rcases published_concat.1 hx with hx | ⟨_, hx, hopen⟩
        · exact Or.inr ⟨h.unstaged (Or.inr hx.ended), x, hx, hv⟩
        · exact Or.inl ⟨hp, hopen, x, hx, hv⟩
    · have hpublish : ∀ x, Published (cs ++ [.commit q]) p k x ↔ Published cs p k x := by
        intro x
        simp [published_concat, Ne.symm hpq]
      have hkept : (s.commit q).peek? p k = s.peek? p k := by
        rw [peek?, publishedOf_commit, if_neg hpq, peek?]
      rw [hkept, h.ofOthers p k v hp]
      simp only [hpublish]

/-- A producer that ends without success loses what is staged. -/
theorem Tells.discard (h : Tells cs s) : Tells (cs ++ [.discard q]) (s.discard q) := by
  have hwrites := h.toWrites.ending (.discard (p := q)) (t := s.discard q) rfl
    (fun p => mem_markEnded_iff) (fun p => stagedOf_discard)
  have hkept : ∀ p k, (s.discard q).peek? p k = s.peek? p k := fun _ _ => rfl
  refine ⟨hwrites, fun k v => ?_, fun p k v hp => ?_⟩
  · rw [hkept, h.ofRun]
    simp only [accepted_end .discard]
  · have hpublish : ∀ x, Published (cs ++ [.discard q]) p k x ↔ Published cs p k x := by
      intro x
      simp [published_concat]
    rw [hkept, h.ofOthers p k v hp]
    simp only [hpublish]

/-! ## All calls -/

/-- Each call tells the store what it tells the history. -/
theorem Tells.call (h : Tells cs s) (hs : calls {} cs = s) : Tells (cs ++ [c]) (s.call c) := by
  cases c with
  | put q l y =>
    rcases hw : s.write q l y with fault | t
    · rw [call_put_error hw]
      have hrefused : ∀ p k x, Accepted (cs ++ [.put q l y]) p k x ↔ Accepted cs p k x :=
        fun p k x => accepted_concat_of_refused (hs ▸ hw)
      exact h.idle hrefused (by rintro p ⟨⟩) rfl rfl rfl rfl
    · rw [call_put_ok hw]
      exact h.put hs hw
  | commit q => exact h.commit
  | discard q => exact h.discard
  | close =>
    have hnone : ∀ p k x, Accepted (cs ++ [.close]) p k x ↔ Accepted cs p k x := by
      intro p k x
      simp [accepted_concat]
    exact h.idle hnone (by rintro p ⟨⟩) rfl rfl rfl rfl

/-- By induction on the calls, from the last one back. -/
theorem tells_calls (cs : List Call) : Tells cs (calls {} cs) := by
  induction cs using List.reverseRecOn with
  | nil => exact tells_nil
  | append_singleton cs c ih =>
    rw [calls_concat]
    exact ih.call rfl

/-! ## The law -/

/-- After any calls on a fresh store, readers see a value of a producer just if a put of it was
accepted and the first end of the producer, which came after that, was a success; and a value of
the run just if a put of it was accepted. What is seen stays as it is. A put is refused as a
duplicate just if one of the same key was accepted before, and else just if its producer has ended
and is not the run itself; and it then changes nothing. -/
theorem a_value_is_seen_once_its_producer_has_succeeded (cs : List Call) :
    (∀ p k v, p ≠ runScope → ((calls {} cs).peek? p k = some v ↔
      ∃ x, Published cs p k x ∧ Value.text x.shown = v)) ∧
    (∀ k v, (calls {} cs).peek? runScope k = some v ↔
      ∃ x, Accepted cs runScope k x ∧ Value.text x.shown = v) ∧
    (∀ p k v more, (calls {} cs).peek? p k = some v →
      (calls {} (cs ++ more)).peek? p k = some v) ∧
    ∀ p k x, ((calls {} cs).write p k x = .error (.duplicate p k) ↔ ∃ y, Accepted cs p k y) ∧
      ((calls {} cs).write p k x = .error (.alreadyEnded p k) ↔
        (¬ ∃ y, Accepted cs p k y) ∧ p ≠ runScope ∧ Ended cs p) ∧
      ∀ fault, (calls {} cs).write p k x = .error fault →
        (fault = .duplicate p k ∨ fault = .alreadyEnded p k) ∧
          (calls {} cs).call (.put p k x) = calls {} cs := by
  have h := tells_calls cs
  refine ⟨fun p k v hp => h.ofOthers p k v hp, h.ofRun, fun p k v more hv => ?_,
    fun p k x => ⟨?_, ?_, fun fault hfault => ⟨write_error_cases hfault, call_put_error hfault⟩⟩⟩
  · have hmore := tells_calls (cs ++ more)
    by_cases hp : p = runScope
    · subst hp
      obtain ⟨x, hx, hshown⟩ := (h.ofRun k v).1 hv
      exact (hmore.ofRun k v).2 ⟨x, hx.append more, hshown⟩
    · obtain ⟨x, hx, hshown⟩ := (h.ofOthers p k v hp).1 hv
      exact (hmore.ofOthers p k v hp).2 ⟨x, hx.append more, hshown⟩
  · rw [write_eq_duplicate, h.written]
  · rw [write_eq_alreadyEnded, h.written, h.ended]

/-- A test gives up and then reports success all the same; a build succeeds, is put off once more,
and cannot add anything. -/
def lateCalls : List Call :=
  [.put "test" "report" (.text "red"), .discard "test", .put "build" "image" (.whole 7),
    .commit "test", .commit "build", .put runScope "tag" (.text "v1"), .discard "build",
    .put "build" "log" (.text "late"), .put "build" "image" (.whole 8), .close]

/-- Of the test nothing is seen, of the build the image, and of the run its tag. -/
theorem nothing_is_seen_of_the_test :
    (calls {} lateCalls).peek? "test" "report" = none ∧
      (∀ more, (calls {} (lateCalls ++ more)).peek? "build" "image" = some (.text "7")) ∧
      (∀ more, (calls {} (lateCalls ++ more)).peek? runScope "tag" = some (.text "v1")) ∧
      (calls {} lateCalls).write "build" "log" (.text "late") =
        .error (.alreadyEnded "build" "log") ∧
      (calls {} lateCalls).write "test" "report" (.text "green") =
        .error (.duplicate "test" "report") := by
  obtain ⟨hothers, hrun, hstays, hrefused⟩ :=
    a_value_is_seen_once_its_producer_has_succeeded lateCalls
  have hreport : Accepted lateCalls "test" "report" (.text "red") := ⟨[], _, _, rfl, rfl⟩
  have htag : Accepted lateCalls runScope "tag" (.text "v1") :=
    ⟨lateCalls.take 5, lateCalls.drop 6, _, rfl, rfl⟩
  have himage : Published lateCalls "build" "image" (.whole 7) := by
    refine ⟨lateCalls.take 4, lateCalls.drop 5, rfl,
      ⟨lateCalls.take 2, [.commit "test"], _, rfl, rfl⟩, ?_⟩
    rintro ⟨c, hc, hends⟩
    cases hends <;> simp [lateCalls] at hc
  refine ⟨rfl, fun more => ?_, fun more => ?_, rfl, ?_⟩
  · apply hstays
    exact (hothers "build" "image" _ (by decide)).2 ⟨_, himage, rfl⟩
  · apply hstays
    exact (hrun "tag" _).2 ⟨_, htag, rfl⟩
  · exact (hrefused "test" "report" _).1.2 ⟨_, hreport⟩

end GatedPipeline.OutputStore
