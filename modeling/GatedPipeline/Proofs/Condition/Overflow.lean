-- How a condition can break down. Whatever is wrong with its text and whatever
-- cannot be resolved makes it false; but a whole number beyond double precision
-- has no number to be compared with, and that is no such fault.
import GatedPipeline.Proofs.Condition.Reads
import GatedPipeline.Proofs.Decimal.Range
import GatedPipeline.Orchestrator
namespace GatedPipeline.Condition
open GatedPipeline.Text GatedPipeline.Decimal

variable {s : Scope} {a b item v : Value} {items vs : List Value} {op : Comparison}
  {e e' : Expr} {fault : EvalFault}

/-! ## Numbers that are too large -/

/-- A whole number that has no number of double precision near it. -/
def TooLarge : Value → Prop
  | .whole n => Binary64.wholeLimit ≤ n.natAbs
  | _ => False

theorem asNumber?_eq_error : asNumber? v = .error fault ↔ fault = .tooLarge ∧ TooLarge v := by
  cases v with
  | whole n =>
    have hlimit := Binary64.ofInt?_isSome_iff n
    simp only [asNumber?, TooLarge]
    generalize Binary64.ofInt? n = found at hlimit ⊢
    generalize Binary64.wholeLimit = limit at hlimit ⊢
    rcases found with _ | x
    · have hlarge : limit ≤ n.natAbs := by
        apply Nat.le_of_not_lt
        intro h
        cases hlimit.2 h
      simp [hlarge, eq_comm]
    · have hsmall : n.natAbs < limit := hlimit.1 rfl
      have hnot : ¬ limit ≤ n.natAbs := Nat.not_le_of_lt hsmall
      simp [hnot]
  | _ => simp [asNumber?, TooLarge]

/-- A fault of a computation that goes on without any is one of its first part. -/
theorem bind_eq_error_iff {α β : Type} {x : Except EvalFault α} {f : α → Except EvalFault β}
    (h : ∀ y, ∃ z, f y = .ok z) : x >>= f = .error fault ↔ x = .error fault := by
  rcases x with fault' | y
  · simp [bind, Except.bind]
  · obtain ⟨z, hz⟩ := h y
    simp [bind, Except.bind, hz]

theorem numbers?_eq_error :
    numbers? a b = .error fault ↔ fault = .tooLarge ∧ (TooLarge a ∨ TooLarge b) := by
  unfold numbers?
  rcases ha : asNumber? a with fault' | x
  · obtain ⟨rfl, hlarge⟩ := asNumber?_eq_error.1 ha
    simp [bind, Except.bind, hlarge, eq_comm]
  · have hsmall : ¬ TooLarge a := by
      intro h
      rw [asNumber?_eq_error.2 ⟨rfl, h⟩] at ha
      cases ha
    rcases hb : asNumber? b with fault' | y
    · obtain ⟨rfl, hlarge⟩ := asNumber?_eq_error.1 hb
      simp [bind, Except.bind, hlarge, eq_comm]
    · have hsmall' : ¬ TooLarge b := by
        intro h
        rw [asNumber?_eq_error.2 ⟨rfl, h⟩] at hb
        cases hb
      simp [bind, Except.bind, pure, Except.pure, hsmall, hsmall']

/-! ## Comparisons that break down -/

/-- The comparison takes the numbers of both values, and one of them has none near it. Values of
one kind are equal or not as they are. -/
def Comparison.Breaks (op : Comparison) (a b : Value) : Prop :=
  (TooLarge a ∨ TooLarge b) ∧ (op = .eq ∨ op = .ne → a.kind ≠ b.kind)

theorem equals_eq_error :
    equals a b = .error fault ↔ fault = .tooLarge ∧ Comparison.eq.Breaks a b := by
  unfold equals Comparison.Breaks
  by_cases hkind : a.kind = b.kind
  · simp [hkind, pure, Except.pure]
  · rw [if_neg hkind]
    refine (bind_eq_error_iff ?_).trans ?_
    · rintro (_ | ⟨x, y⟩)
      · exact ⟨_, rfl⟩
      · exact ⟨_, rfl⟩
    · rw [numbers?_eq_error]
      simp [hkind]

theorem holds_eq_error :
    op.holds a b = .error fault ↔ fault = .tooLarge ∧ op.Breaks a b := by
  cases op with
  | eq => exact equals_eq_error
  | ne =>
    refine (bind_eq_error_iff fun found => ⟨_, rfl⟩).trans ?_
    rw [equals_eq_error]
    simp [Comparison.Breaks]
  | _ =>
    refine (bind_eq_error_iff ?_).trans ?_
    · rintro (_ | ⟨x, y⟩)
      · exact ⟨_, rfl⟩
      · exact ⟨_, rfl⟩
    · rw [numbers?_eq_error]
      simp [Comparison.Breaks]

/-- Looking for the item comes to a value that it cannot be compared with. -/
def SearchBreaks (item : Value) (vs : List Value) : Prop :=
  ∃ before v after, vs = before ++ v :: after ∧ (∀ w ∈ before, equals w item = .ok false) ∧
    Comparison.eq.Breaks v item

/-- Past a value that can be compared with the item, the search goes on only if it is another. -/
theorem searchBreaks_cons {found : Bool} (hv : equals v item = .ok found) :
    SearchBreaks item (v :: vs) ↔ found = false ∧ SearchBreaks item vs := by
  constructor
  · rintro ⟨before, w, after, heq, hbefore, hw⟩
    rcases before with _ | ⟨u, before⟩
    · cases heq
      rw [equals_eq_error.2 ⟨rfl, hw⟩] at hv
      cases hv
    · cases heq
      have hu := hbefore v List.mem_cons_self
      rw [hv] at hu
      cases hu
      refine ⟨rfl, before, w, after, rfl, fun x hx => ?_, hw⟩
      exact hbefore x (List.mem_cons_of_mem _ hx)
  · rintro ⟨rfl, before, w, after, rfl, hbefore, hw⟩
    refine ⟨v :: before, w, after, rfl, fun u hu => ?_, hw⟩
    rcases List.mem_cons.1 hu with rfl | hu
    · exact hv
    · exact hbefore u hu

theorem containsValue_eq_error :
    containsValue item vs = .error fault ↔ fault = .tooLarge ∧ SearchBreaks item vs := by
  induction vs with
  | nil => simp [containsValue, SearchBreaks]
  | cons v vs ih =>
    simp only [containsValue]
    rcases hv : equals v item with fault' | found
    · obtain ⟨rfl, hbreaks⟩ := equals_eq_error.1 hv
      constructor
      · intro h
        cases h
        exact ⟨rfl, [], v, vs, rfl, by simp, hbreaks⟩
      · rintro ⟨rfl, _⟩
        rfl
    · rw [searchBreaks_cons hv]
      rcases found with _ | _
      · simpa using ih
      · simp

theorem Function.apply_eq_tooLarge {f : Function} : f.apply vs s = .error .tooLarge ↔
    f = .contains ∧ ∃ items item, vs = [.list items, item] ∧ SearchBreaks item items := by
  unfold Function.apply
  split
  · split <;> simp
  · rename_i items item
    have hsearch := @containsValue_eq_error item items .tooLarge
    rcases hfound : containsValue item items with fault | found
    · rw [hfound] at hsearch
      simpa [Except.map] using hsearch
    · rw [hfound] at hsearch
      simpa [Except.map] using hsearch
  · rename_i text part hlist
    simp only [reduceCtorEq, false_iff]
    rintro ⟨_, items, item, heq, _⟩
    cases heq
    exact hlist items rfl
  · simp
  · simp
  · rename_i hpair _ _
    simp only [Except.error.injEq, reduceCtorEq, false_iff]
    rintro ⟨rfl, items, item, rfl, _⟩
    exact hpair _ _ rfl rfl

/-! ## Where a condition breaks down -/

/-- All the parts of this expression have values, but they are compared with a number that is too
large. -/
inductive Expr.Breaks (s : Scope) : Expr → Prop
  | cmp {op : Comparison} {l r : Expr} {a b : Value} (left : (l.eval s).result = .ok a)
      (right : (r.eval s).result = .ok b) (bad : op.Breaks a b) : Breaks s (.cmp op l r)
  | mem {item container : Expr} {items : List Value} {v : Value}
      (found : (container.eval s).result = .ok (.list items)) (value : (item.eval s).result = .ok v)
      (bad : SearchBreaks v items) : Breaks s (.mem item container)
  | contains {args : List Expr} {items : List Value} {item : Value}
      (values : (evalAll s args).result = .ok [.list items, item])
      (bad : SearchBreaks item items) : Breaks s (.call .contains args)

theorem Expr.raises_tooLarge : e.Raises s .tooLarge ↔ e.Breaks s := by
  constructor
  · intro h
    cases h with
    | cmp left right bad =>
      obtain ⟨_, hbreaks⟩ := holds_eq_error.1 bad
      exact .cmp left right hbreaks
    | mem found value bad =>
      obtain ⟨_, hbreaks⟩ := containsValue_eq_error.1 bad
      exact .mem found value hbreaks
    | call values bad =>
      obtain ⟨rfl, items, item, rfl, hbreaks⟩ := Function.apply_eq_tooLarge.1 bad
      exact .contains values hbreaks
  · intro h
    cases h with
    | cmp left right bad => exact .cmp left right (holds_eq_error.2 ⟨rfl, bad⟩)
    | mem found value bad => exact .mem found value (containsValue_eq_error.2 ⟨rfl, bad⟩)
    | contains values bad =>
      exact .call values (Function.apply_eq_tooLarge.2 ⟨rfl, _, _, rfl, bad⟩)

/-- Evaluating the condition comes to a comparison that breaks down. -/
def BreaksDown (expression : Option String) (s : Scope) : Prop :=
  ∃ text e e', expression = some text ∧ parse text = .ok e ∧ e.Reaches s e' ∧ e'.Breaks s

/-! ## Conditions without numbers that are too large -/

mutual

/-- All the whole numbers in the value are below the limit. -/
def Small : Value → Prop
  | .whole n => n.natAbs < Binary64.wholeLimit
  | .list items => AllSmall items
  | _ => True

def AllSmall : List Value → Prop
  | [] => True
  | v :: vs => Small v ∧ AllSmall vs

end

theorem Small.not_tooLarge (h : Small v) : ¬ TooLarge v := by
  intro hlarge
  cases v with
  | whole n => exact absurd h (Nat.not_lt_of_le hlarge)
  | _ => cases hlarge

theorem AllSmall.of_mem (h : AllSmall vs) (hv : v ∈ vs) : Small v := by
  induction vs with
  | nil => cases hv
  | cons w vs ih =>
    obtain ⟨hw, hvs⟩ := h
    rcases List.mem_cons.1 hv with rfl | hv
    · exact hw
    · exact ih hvs hv

theorem not_breaks_of_small (ha : Small a) (hb : Small b) : ¬ op.Breaks a b := by
  rintro ⟨hlarge | hlarge, _⟩
  · exact ha.not_tooLarge hlarge
  · exact hb.not_tooLarge hlarge

theorem not_searchBreaks_of_small (hitem : Small item) (hvs : AllSmall vs) :
    ¬ SearchBreaks item vs := by
  rintro ⟨before, v, after, rfl, _, hbreaks⟩
  have hv : Small v := hvs.of_mem (by simp)
  exact not_breaks_of_small hv hitem hbreaks

mutual

/-- The values that are written in an expression. -/
def Expr.literals : Expr → List Value
  | .lit v => [v]
  | .ref _ => []
  | .or l r => l.literals ++ r.literals
  | .and l r => l.literals ++ r.literals
  | .not e => e.literals
  | .cmp _ l r => l.literals ++ r.literals
  | .mem item container => item.literals ++ container.literals
  | .list items => literalsOfAll items
  | .call _ args => literalsOfAll args

def literalsOfAll : List Expr → List Value
  | [] => []
  | e :: es => e.literals ++ literalsOfAll es

end

theorem mem_literalsOfAll {before after : List Expr} (h : v ∈ e.literals) :
    v ∈ literalsOfAll (before ++ e :: after) := by
  induction before with
  | nil => exact List.mem_append_left _ h
  | cons _ before ih => exact List.mem_append_right _ ih

theorem Expr.Enters.literals_subset (h : e.Enters s e') : e'.literals ⊆ e.literals := by
  intro v hv
  cases h with
  | not => exact hv
  | orLeft | andLeft | cmpLeft | item => exact List.mem_append_left _ hv
  | orRight | andRight | cmpRight | container => exact List.mem_append_right _ hv
  | listItem | argument => exact mem_literalsOfAll hv

theorem Expr.Reaches.literals_subset (h : e.Reaches s e') : e'.literals ⊆ e.literals := by
  induction h with
  | refl => exact List.Subset.refl _
  | tail _ hstep ih => exact List.Subset.trans hstep.literals_subset ih

/-- No output of the scope has a whole number that is too large. -/
def Scope.Moderate (s : Scope) : Prop := ∀ stage key v, s.output? stage key = some v → Small v

theorem Scope.Moderate.value? (hs : s.Moderate) {r : Reference} (h : s.value? r = some v) :
    Small v := by
  obtain ⟨root, path⟩ := r
  have htext : ∀ {o : Option String}, o.map Value.text = some v → Small v := by
    intro o ho
    obtain ⟨w, _, rfl⟩ := Option.map_eq_some_iff.1 ho
    trivial
  rcases path with _ | ⟨k, ks⟩
  · cases root <;> cases h <;> trivial
  · cases root
    case vars => exact htext h
    case matrix => exact htext h
    case release => exact htext h
    case outputs =>
      rcases ks with _ | ⟨l, ks⟩
      · cases h
      · exact hs _ _ _ h
    all_goals cases h

theorem small_of_map_bool {r : Except EvalFault Bool} (h : r.map Value.bool = .ok v) : Small v := by
  rcases r with fault | found
  · cases h
  · cases h
    trivial

theorem Function.small_of_apply {f : Function} (h : f.apply vs s = .ok v) : Small v := by
  unfold Function.apply at h
  split at h
  · split at h
    · cases h
    · cases h
      trivial
  · exact small_of_map_bool h
  · cases h
    trivial
  · cases h
    trivial
  · cases h
    trivial
  · cases h

mutual

/-- Whatever such an expression comes to in such a scope is small as well. -/
theorem Expr.eval_small (hs : s.Moderate) : (e : Expr) → {v : Value} →
    (∀ w ∈ e.literals, Small w) → (e.eval s).result = .ok v → Small v
  | .lit w, v, he, h => by
    cases h
    exact he w (by simp [Expr.literals])
  | .ref r, v, _, h => by
    simp only [Expr.eval] at h
    exact hs.value? (Scope.resolve_eq_ok.1 h)
  | .list items, v, he, h => by
    simp only [Expr.literals] at he
    simp only [Expr.eval] at h
    obtain ⟨vs, hvs, h⟩ := Answer.bind_eq_ok.1 h
    cases h
    exact evalAll_small hs items he hvs
  | .or l r, v, _, h => by
    simp only [Expr.eval] at h
    obtain ⟨a, _, h⟩ := Answer.bind_eq_ok.1 h
    split at h
    · cases h
      trivial
    · obtain ⟨_, _, h⟩ := Answer.bind_eq_ok.1 h
      cases h
      trivial
  | .and l r, v, _, h => by
    simp only [Expr.eval] at h
    obtain ⟨a, _, h⟩ := Answer.bind_eq_ok.1 h
    split at h
    · obtain ⟨_, _, h⟩ := Answer.bind_eq_ok.1 h
      cases h
      trivial
    · cases h
      trivial
  | .not e, v, _, h => by
    simp only [Expr.eval] at h
    obtain ⟨_, _, h⟩ := Answer.bind_eq_ok.1 h
    cases h
    trivial
  | .cmp op l r, v, _, h => by
    simp only [Expr.eval] at h
    obtain ⟨a, _, h⟩ := Answer.bind_eq_ok.1 h
    obtain ⟨b, _, h⟩ := Answer.bind_eq_ok.1 h
    exact small_of_map_bool h
  | .mem item container, v, _, h => by
    simp only [Expr.eval] at h
    obtain ⟨c, _, h⟩ := Answer.bind_eq_ok.1 h
    split at h
    · obtain ⟨w, _, h⟩ := Answer.bind_eq_ok.1 h
      exact small_of_map_bool h
    · cases h
  | .call f args, v, _, h => by
    simp only [Expr.eval] at h
    obtain ⟨vs, _, h⟩ := Answer.bind_eq_ok.1 h
    exact Function.small_of_apply h

theorem evalAll_small (hs : s.Moderate) : (es : List Expr) → {vs : List Value} →
    (∀ w ∈ literalsOfAll es, Small w) → (evalAll s es).result = .ok vs → AllSmall vs
  | [], vs, _, h => by
    cases h
    trivial
  | e :: es, vs, hes, h => by
    simp only [literalsOfAll, List.forall_mem_append] at hes
    simp only [evalAll] at h
    obtain ⟨v, hv, h⟩ := Answer.bind_eq_ok.1 h
    obtain ⟨ws, hws, h⟩ := Answer.bind_eq_ok.1 h
    cases h
    exact ⟨Expr.eval_small hs e hes.1 hv, evalAll_small hs es hes.2 hws⟩

end

theorem Expr.not_breaks (hs : s.Moderate) (he : ∀ w ∈ e.literals, Small w) : ¬ e.Breaks s := by
  intro h
  cases h with
  | @cmp op l r a b left right bad =>
    simp only [Expr.literals, List.forall_mem_append] at he
    exact not_breaks_of_small (l.eval_small hs he.1 left) (r.eval_small hs he.2 right) bad
  | @mem item container items v found value bad =>
    simp only [Expr.literals, List.forall_mem_append] at he
    have hitems : Small (.list items) := container.eval_small hs he.2 found
    exact not_searchBreaks_of_small (item.eval_small hs he.1 value) hitems bad
  | @contains args items item values bad =>
    obtain ⟨hitems, hitem, _⟩ := evalAll_small hs args he values
    exact not_searchBreaks_of_small hitem hitems bad

/-! ## What a condition comes to -/

/-- There is no condition, or nothing is written in it. -/
def Absent (expression : Option String) : Prop :=
  ∀ text, expression = some text → isBlankText text = true

theorem evaluate_of_absent {expression : Option String} (h : Absent expression) (s : Scope) :
    (evaluate expression s).holds = .ok true := by
  unfold evaluate
  rcases expression with _ | text
  · rfl
  · simp [h text rfl]

theorem evaluate_of_fault {text : String} {wrong : ParseFault} (hblank : isBlankText text = false)
    (h : parse text = .error wrong) (hdigits : ∀ n, wrong ≠ .tooManyDigits n) (s : Scope) :
    (evaluate (some text) s).holds = .ok false := by
  unfold evaluate
  simp only [hblank, h]
  cases wrong with
  | tooManyDigits n => exact absurd rfl (hdigits n)
  | _ => rfl

theorem not_breaksDown_of_absent {expression : Option String} (h : Absent expression) :
    ¬ BreaksDown expression s := by
  rintro ⟨text, e, _, htext, hparse, _⟩
  unfold parse at hparse
  rw [h text htext] at hparse
  cases hparse

theorem not_breaksDown_of_fault {text : String} {wrong : ParseFault}
    (h : parse text = .error wrong) : ¬ BreaksDown (some text) s := by
  rintro ⟨text', e, _, htext, hparse, _⟩
  cases htext
  rw [h] at hparse
  cases hparse

/-- A condition that is read breaks down just where its evaluation does. -/
theorem breaksDown_iff {text : String} (h : parse text = .ok e) :
    BreaksDown (some text) s ↔ (e.eval s).result = .error .tooLarge := by
  rw [Expr.eval_eq_error]
  constructor
  · rintro ⟨text', e₁, e', htext, hparse, hreach, hbreaks⟩
    cases htext
    rw [h] at hparse
    cases hparse
    exact ⟨e', hreach, Expr.raises_tooLarge.2 hbreaks⟩
  · rintro ⟨e', hreach, hraises⟩
    exact ⟨text, e, e', rfl, h, hreach, Expr.raises_tooLarge.1 hraises⟩

/-- There is nothing to read, or it cannot be read, or it is read. -/
theorem expression_cases (expression : Option String) : Absent expression ∨
    (∃ text wrong, expression = some text ∧ isBlankText text = false ∧
      parse text = .error wrong) ∨
    ∃ text e, expression = some text ∧ parse text = .ok e := by
  by_cases habsent : Absent expression
  · exact Or.inl habsent
  · obtain ⟨text, rfl, hblank⟩ : ∃ text, expression = some text ∧ isBlankText text = false := by
      unfold Absent at habsent
      push Not at habsent
      simpa using habsent
    rcases hparse : parse text with wrong | e
    · exact Or.inr (Or.inl ⟨text, wrong, rfl, hblank, hparse⟩)
    · exact Or.inr (Or.inr ⟨text, e, rfl, hparse⟩)

theorem evaluate_eq_error {expression : Option String}
    (hdigits : ∀ text n, expression = some text → parse text ≠ .error (.tooManyDigits n))
    {b : Breakdown} : (evaluate expression s).holds = .error b ↔
      b = .tooLarge ∧ BreaksDown expression s := by
  rcases expression_cases expression with
    habsent | ⟨text, wrong, rfl, hblank, hparse⟩ | ⟨text, e, rfl, hparse⟩
  · rw [evaluate_of_absent habsent]
    simp [not_breaksDown_of_absent habsent]
  · have hother : ∀ n, wrong ≠ .tooManyDigits n := by
      rintro n rfl
      exact hdigits text n rfl hparse
    rw [evaluate_of_fault hblank hparse hother]
    simp [not_breaksDown_of_fault hparse]
  · rw [evaluate_of_parse hparse, breaksDown_iff hparse]
    unfold Verdict.ofAnswer
    rcases (e.eval s).result with (why | _) | v
    · simp
    · simp [eq_comm]
    · simp

theorem exists_holds_iff {expression : Option String}
    (hdigits : ∀ text n, expression = some text → parse text ≠ .error (.tooManyDigits n)) :
    (∃ b, (evaluate expression s).holds = .ok b) ↔ ¬ BreaksDown expression s := by
  have herror := @evaluate_eq_error s expression hdigits
  rcases hholds : (evaluate expression s).holds with b | b
  · have hbreaks := (herror.1 hholds).2
    simp [hbreaks]
  · have hnot : ¬ BreaksDown expression s := by
      intro h
      have hbad := herror.2 ⟨rfl, h⟩
      rw [hholds] at hbad
      cases hbad
    simp [hnot]

theorem evaluate_eq_true {expression : Option String} :
    (evaluate expression s).holds = .ok true ↔ Absent expression ∨ ∃ text e v,
      expression = some text ∧ parse text = .ok e ∧ (e.eval s).result = .ok v ∧
      v.truthy = true := by
  constructor
  · intro htrue
    rcases expression_cases expression with
      habsent | ⟨text, wrong, rfl, hblank, hparse⟩ | ⟨text, e, rfl, hparse⟩
    · exact Or.inl habsent
    · unfold evaluate at htrue
      simp only [hblank, hparse] at htrue
      cases wrong <;> cases htrue
    · rw [evaluate_of_parse hparse, Verdict.holds_ofAnswer_true] at htrue
      obtain ⟨v, hv, htruthy⟩ := htrue
      exact Or.inr ⟨text, e, v, rfl, hparse, hv, htruthy⟩
  · rintro (habsent | ⟨text, e, v, rfl, hparse, hv, htruthy⟩)
    · exact evaluate_of_absent habsent s
    · rw [evaluate_of_parse hparse, Verdict.holds_ofAnswer_true]
      exact ⟨v, hv, htruthy⟩

/-- The filter of a workflow is its condition in a scope with the trigger alone. -/
theorem wants_eq (w : Workflow) (t : Trigger) :
    Orchestrator.wants w t = (evaluate w.on { trigger := t }).holds := by
  unfold Orchestrator.wants
  rcases w.on with _ | text
  · rfl
  · dsimp only
    split
    · rename_i hempty
      rw [hempty]
      rfl
    · rfl

/-- A policy that breaks down does not approve. -/
theorem approves_when_iff {text : String} {r : Policy.Request} :
    (Policy.when text).approves r = true ↔
      (evaluate (some text) { trigger := r.trigger, release := some (.ok r.release) }).holds =
        .ok true := by
  unfold Policy.approves
  split
  · rename_i b hholds
    simp [hholds]
  · rename_i b hholds
    simp [hholds]

/-- The scheduler looks at a condition as things stand, or as they stand after the release
decision. -/
theorem conditionHolds_cases (s : Scheduler) (i : Instance) : ∃ t,
    (t = s ∨ t = s.releaseFacts.2) ∧ (s.conditionHolds i).1 = (evaluate i.template.condition
      (t.graph.conditionScope i t.run.trigger (some t.run.outputs.peek?)
        (some s.releaseFacts.1))).holds := by
  unfold Scheduler.conditionHolds
  dsimp only
  split
  · exact ⟨_, Or.inr rfl, rfl⟩
  · exact ⟨_, Or.inl rfl, rfl⟩

/-! ## The law -/

/-- A condition always comes to an answer, unless its evaluation comes to a comparison with a whole
number that rounds to none of double precision; and just then it breaks down. An absent one holds,
and so does one that comes to a value that counts as true; one that cannot be read does not hold,
nor one that comes to a reference without a value or another mistake. So in a scope without such
numbers a condition in which none is written has an answer. The filter of a workflow and the
scheduler break down with their conditions, and an approval policy then does not approve. -/
theorem a_condition_breaks_down_only_over_a_number_too_large (expression : Option String)
    (hdigits : ∀ text n, expression = some text → parse text ≠ .error (.tooManyDigits n)) :
    (∀ s, (∃ b, (evaluate expression s).holds = .ok b) ↔ ¬ BreaksDown expression s) ∧
    (∀ s b, (evaluate expression s).holds = .error b ↔
      b = .tooLarge ∧ BreaksDown expression s) ∧
    (∀ s, (evaluate expression s).holds = .ok true ↔ Absent expression ∨ ∃ text e v,
      expression = some text ∧ parse text = .ok e ∧ (e.eval s).result = .ok v ∧
      v.truthy = true) ∧
    (∀ s text, expression = some text → isBlankText text = false →
      ((∃ wrong, parse text = .error wrong) ∨
        ∃ e why, parse text = .ok e ∧ (e.eval s).result = .error (.unresolved why)) →
      (evaluate expression s).holds = .ok false) ∧
    ((∀ text e, expression = some text → parse text = .ok e → ∀ v ∈ e.literals, Small v) →
      ∀ s : Scope, s.Moderate → ∃ b, (evaluate expression s).holds = .ok b) ∧
    (∀ w t, w.on = expression → ((∃ b, Orchestrator.wants w t = .ok b) ↔
      ¬ BreaksDown expression { trigger := t })) ∧
    (∀ (s : Scheduler) i, i.template.condition = expression → ∃ t,
      (t = s ∨ t = s.releaseFacts.2) ∧ ((∃ b, (s.conditionHolds i).1 = .ok b) ↔
        ¬ BreaksDown expression (t.graph.conditionScope i t.run.trigger
          (some t.run.outputs.peek?) (some s.releaseFacts.1)))) ∧
    ∀ text r, expression = some text → BreaksDown expression
        { trigger := r.trigger, release := some (.ok r.release) } →
      (Policy.when text).approves r = false := by
  refine ⟨fun s => exists_holds_iff hdigits, fun s b => evaluate_eq_error hdigits,
    fun s => evaluate_eq_true, ?_, fun hsmall s hs => ?_, fun w t hw => ?_, fun s i hi => ?_,
    fun text r htext hbreaks => ?_⟩
  · rintro s text rfl hblank (⟨wrong, hparse⟩ | ⟨e, why, hparse, hfails⟩)
    · apply evaluate_of_fault hblank hparse
      rintro n rfl
      exact hdigits text n rfl hparse
    · rw [evaluate_of_parse hparse]
      unfold Verdict.ofAnswer
      rw [hfails]
  · rw [exists_holds_iff hdigits]
    rintro ⟨text, e, e', htext, hparse, hreach, hbreaks⟩
    apply Expr.not_breaks hs _ hbreaks
    intro v hv
    exact hsmall text e htext hparse v (hreach.literals_subset hv)
  · rw [wants_eq, hw]
    exact exists_holds_iff hdigits
  · obtain ⟨t, ht, hholds⟩ := conditionHolds_cases s i
    refine ⟨t, ht, ?_⟩
    rw [hholds, hi]
    exact exists_holds_iff hdigits
  · subst htext
    rw [← Bool.not_eq_true, approves_when_iff]
    intro htrue
    exact (exists_holds_iff hdigits).1 ⟨true, htrue⟩ hbreaks

/-- `vars.count >= 3`, as it is derived. -/
def enough : Disjunction :=
  let count : Primary := .atom (.ref ⟨.vars, ["count"]⟩)
  let three : Primary := .atom (.number ['3'] none (.whole 3) rfl)
  .mk (.mk (.plain (.rel count (.cmp .ge) three)) .nil) .nil

/-- The count is a text, and is compared as a number; whatever it is, there is an answer. -/
theorem the_count_is_enough_or_not :
    parse "vars.count >= 3" = .ok enough.expr ∧
      (∀ s : Scope, s.Moderate → ∃ b, (evaluate (some "vars.count >= 3") s).holds = .ok b) ∧
      (∀ t : Trigger, ∃ b, Orchestrator.wants { name := "ci", on := some "vars.count >= 3" } t =
        .ok b) ∧
      (evaluate (some "vars.count >= 3") { trigger := {} }).holds = .ok false ∧
      (evaluate (some "vars.count >= 3") { trigger := { values := [("count", "12")] } }).holds =
        .ok true := by
  have hparse : parse "vars.count >= 3" = .ok enough.expr :=
    enough.parse (by decide +kernel) (by decide +kernel)
  have hdigits : ∀ text n, some "vars.count >= 3" = some text →
      parse text ≠ .error (.tooManyDigits n) := by
    intro text n htext hfails
    cases htext
    rw [hparse] at hfails
    cases hfails
  obtain ⟨hanswers, _, _, hfalse, hsmall, hfilter, _⟩ :=
    a_condition_breaks_down_only_over_a_number_too_large (some "vars.count >= 3") hdigits
  have hthree : Small (.whole 3) := by
    unfold Small
    decide +kernel
  have hanswer : ∀ s : Scope, s.Moderate →
      ∃ b, (evaluate (some "vars.count >= 3") s).holds = .ok b := by
    apply hsmall
    intro text e htext hparse' v hv
    cases htext
    rw [hparse] at hparse'
    cases hparse'
    rw [List.mem_singleton.1 hv]
    exact hthree
  have hnoOutputs : ∀ t : Trigger, Scope.Moderate { trigger := t } := by
    intro t stage key v hv
    cases hv
  refine ⟨hparse, hanswer, fun t => ?_, hfalse _ _ rfl (by decide +kernel)
    (Or.inr ⟨enough.expr, "vars.count is not set", hparse, rfl⟩), ?_⟩
  · rw [hfilter _ t rfl, ← hanswers]
    exact hanswer _ (hnoOutputs t)
  · rw [evaluate_of_parse hparse]
    decide +kernel

/-! ## A number that is too large -/

/-- Digits with a blank after them are read as a whole number. -/
theorem scanNumber?_digits {ds rest : List Char} (hne : ds ≠ [])
    (hds : ∀ c ∈ ds, isDigit c = true) :
    scanNumber? (ds ++ ' ' :: rest) = some ((ds, none), ' ' :: rest) := by
  have hblank : isDigit ' ' = false := by decide
  have htake : (ds ++ ' ' :: rest).takeWhile isDigit = ds := by
    rw [List.takeWhile_append_of_pos hds]
    simp [hblank]
  have hdrop : (ds ++ ' ' :: rest).dropWhile isDigit = ' ' :: rest := by
    rw [List.dropWhile_append_of_pos hds]
    simp [hblank]
  unfold scanNumber?
  simp only [htake, hdrop, List.isEmpty_iff, hne, if_false]
  rfl

theorem numberValue_of_length {ds : List Char} (h : ds.length ≤ maxDigits) :
    numberValue ds none = .ok (.whole (ofDigits ds)) := by
  unfold numberValue wholeOfDigits
  rw [if_neg (Nat.not_lt_of_le h)]

theorem tokenize_number_is_fork {ds : List Char} (hds : ∀ c ∈ ds, isDigit c = true) :
    tokenize (String.ofList ('1' :: ds ++ " == fork".toList)) =
      .ok [.number ('1' :: ds) none, .mark .eq, .name ["fork"]] := by
  have hall : ∀ c ∈ '1' :: ds, isDigit c = true := by
    intro c hc
    rcases List.mem_cons.1 hc with rfl | hc
    · decide
    · exact hds c hc
  have hscan : scan? (dropBlanks ('1' :: ds ++ " == fork".toList)) =
      some (.number ('1' :: ds) none, " == fork".toList) := by
    have hnumber : scanNumber? ('1' :: ds ++ " == fork".toList) =
        some (('1' :: ds, none), " == fork".toList) :=
      scanNumber?_digits (List.cons_ne_nil _ _) hall
    have hmark : scanMark? ('1' :: ds ++ " == fork".toList) = none := rfl
    have hfirst : dropBlanks ('1' :: ds ++ " == fork".toList) =
        '1' :: ds ++ " == fork".toList := rfl
    rw [hfirst]
    unfold scan?
    rw [hmark]
    simp only [List.cons_append] at hnumber ⊢
    rw [hnumber]
    rfl
  have hrest : lex " == fork".toList = .ok [.mark .eq, .name ["fork"]] := by decide +kernel
  have hlast : dropLastBlanks ('1' :: ds ++ " == fork".toList) =
      '1' :: ds ++ " == fork".toList := by
    have hends : '1' :: ds ++ " == fork".toList = ('1' :: ds ++ " == for".toList) ++ ['k'] := by
      simp
    rw [hends]
    exact dropLastBlanks_concat (by decide)
  unfold tokenize
  rw [String.toList_ofList, hlast]
  dsimp only
  rw [lex_cons hscan hrest]
  rfl

/-- The digits of 10^309. -/
def hugeDigits : List Char := '1' :: List.replicate 309 '0'

/-- `1000...0 == fork`, with the number 10^309. -/
def hugeText : String := String.ofList (hugeDigits ++ " == fork".toList)

def hugeIsFork : Disjunction :=
  let huge : Primary := .atom (.number hugeDigits none (.whole (ofDigits hugeDigits))
    (numberValue_of_length (by decide +kernel)))
  .mk (.mk (.plain (.rel huge (.cmp .eq) (.atom (.ref ⟨.fork, []⟩)))) .nil) .nil

theorem a_number_too_large_breaks_the_condition_down :
    parse hugeText = .ok hugeIsFork.expr ∧
      (evaluate (some hugeText) { trigger := {} }).holds = .error .tooLarge ∧
      (¬ ∃ b, (evaluate (some hugeText) { trigger := {} }).holds = .ok b) ∧
      Orchestrator.wants { name := "ci", on := some hugeText } {} = .error .tooLarge := by
  have hzeros : ∀ c ∈ List.replicate 309 '0', isDigit c = true := by
    intro c hc
    rw [List.eq_of_mem_replicate hc]
    decide
  have hparse : parse hugeText = .ok hugeIsFork.expr :=
    hugeIsFork.parse (tokenize_number_is_fork hzeros) (by
      unfold isBlankText hugeText
      rw [String.toList_ofList]
      rfl)
  have hbreaks : (evaluate (some hugeText) { trigger := {} }).holds = .error .tooLarge := by
    rw [evaluate_of_parse hparse]
    decide +kernel
  refine ⟨hparse, hbreaks, ?_, (wants_eq _ _).trans hbreaks⟩
  rintro ⟨b, hb⟩
  rw [hbreaks] at hb
  cases hb

end GatedPipeline.Condition
