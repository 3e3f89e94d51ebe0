-- Where the evaluation of a condition goes, and where its faults come from. A part
-- that the left side of `&&` or `||` settles is not entered. What is entered hands
-- its fault on to the whole, so each fault of the whole arose in some part.
import GatedPipeline.Condition.Eval
import Mathlib.Logic.Relation
namespace GatedPipeline.Condition

variable {α β : Type} {s : Scope} {e e' : Expr} {fault : EvalFault}

/-! ## One computation after the other -/

theorem Answer.bind_eq_ok {a : Answer α} {f : α → Answer β} {y : β} :
    (a.bind f).result = .ok y ↔ ∃ x, a.result = .ok x ∧ (f x).result = .ok y := by
  unfold Answer.bind
  split
  · rename_i h
    simp [h]
  · rename_i h
    simp [h]

theorem Answer.bind_eq_error {a : Answer α} {f : α → Answer β} :
    (a.bind f).result = .error fault ↔
      a.result = .error fault ∨ ∃ x, a.result = .ok x ∧ (f x).result = .error fault := by
  unfold Answer.bind
  split
  · rename_i h
    simp [h]
  · rename_i h
    simp [h]

/-! ## The parts that are evaluated -/

/-- Evaluating the expression takes evaluating this part of it. -/
inductive Expr.Enters (s : Scope) : Expr → Expr → Prop
  | orLeft (l r : Expr) : Enters s (.or l r) l
  | orRight {l r : Expr} {a : Value} (left : (l.eval s).result = .ok a)
      (unsettled : a.truthy = false) : Enters s (.or l r) r
  | andLeft (l r : Expr) : Enters s (.and l r) l
  | andRight {l r : Expr} {a : Value} (left : (l.eval s).result = .ok a)
      (unsettled : a.truthy = true) : Enters s (.and l r) r
  | not (e : Expr) : Enters s (.not e) e
  | cmpLeft (op : Comparison) (l r : Expr) : Enters s (.cmp op l r) l
  | cmpRight {op : Comparison} {l r : Expr} {a : Value} (left : (l.eval s).result = .ok a) :
      Enters s (.cmp op l r) r
  | container (item container : Expr) : Enters s (.mem item container) container
  | item {item container : Expr} {items : List Value}
      (found : (container.eval s).result = .ok (.list items)) :
      Enters s (.mem item container) item
  | listItem {before after : List Expr} {e : Expr} {vs : List Value}
      (earlier : (evalAll s before).result = .ok vs) : Enters s (.list (before ++ e :: after)) e
  | argument {f : Function} {before after : List Expr} {e : Expr} {vs : List Value}
      (earlier : (evalAll s before).result = .ok vs) :
      Enters s (.call f (before ++ e :: after)) e

/-- Evaluating the expression comes to this one, which is a part of it or the whole. -/
def Expr.Reaches (s : Scope) : Expr → Expr → Prop := Relation.ReflTransGen (Expr.Enters s)

theorem Expr.Enters.reaches {e'' : Expr} (h : e.Enters s e') (h' : e'.Reaches s e'') :
    e.Reaches s e'' := Relation.ReflTransGen.head h h'

/-- All the parts of this expression have values, but there is a fault in what comes of them. -/
inductive Expr.Raises (s : Scope) : Expr → EvalFault → Prop
  | ref {r : Reference} {why : String} (missing : s.lookup r = .error why) :
      Raises s (.ref r) (.unresolved why)
  | cmp {op : Comparison} {l r : Expr} {a b : Value} {fault : EvalFault}
      (left : (l.eval s).result = .ok a) (right : (r.eval s).result = .ok b)
      (bad : op.holds a b = .error fault) : Raises s (.cmp op l r) fault
  | noList {item container : Expr} {c : Value} (found : (container.eval s).result = .ok c)
      (bad : ∀ items, c ≠ .list items) :
      Raises s (.mem item container) (.unresolved "right side of 'in' must be a list")
  | mem {item container : Expr} {items : List Value} {v : Value} {fault : EvalFault}
      (found : (container.eval s).result = .ok (.list items)) (value : (item.eval s).result = .ok v)
      (bad : containsValue v items = .error fault) : Raises s (.mem item container) fault
  | call {f : Function} {args : List Expr} {vs : List Value} {fault : EvalFault}
      (values : (evalAll s args).result = .ok vs) (bad : f.apply vs s = .error fault) :
      Raises s (.call f args) fault

/-! ## A fault is handed on -/

theorem evalAll_of_error {before after : List Expr} {vs : List Value}
    (hbefore : (evalAll s before).result = .ok vs) (he : (e.eval s).result = .error fault) :
    (evalAll s (before ++ e :: after)).result = .error fault := by
  induction before generalizing vs with
  | nil =>
    simp only [List.nil_append, evalAll]
    exact Answer.bind_eq_error.2 (Or.inl he)
  | cons b before ih =>
    simp only [evalAll] at hbefore
    obtain ⟨v, hv, hrest⟩ := Answer.bind_eq_ok.1 hbefore
    obtain ⟨vs', hvs', _⟩ := Answer.bind_eq_ok.1 hrest
    simp only [List.cons_append, evalAll]
    apply Answer.bind_eq_error.2
    exact Or.inr ⟨v, hv, Answer.bind_eq_error.2 (Or.inl (ih hvs'))⟩

theorem Expr.Enters.error (h : e.Enters s e') (he : (e'.eval s).result = .error fault) :
    (e.eval s).result = .error fault := by
  cases h with
  | orLeft | andLeft | not | cmpLeft | container =>
    simp only [Expr.eval]
    exact Answer.bind_eq_error.2 (Or.inl he)
  | orRight left unsettled =>
    simp only [Expr.eval]
    apply Answer.bind_eq_error.2
    refine Or.inr ⟨_, left, ?_⟩
    simp only [unsettled, Bool.false_eq_true, if_false]
    exact Answer.bind_eq_error.2 (Or.inl he)
  | andRight left unsettled =>
    simp only [Expr.eval]
    apply Answer.bind_eq_error.2
    refine Or.inr ⟨_, left, ?_⟩
    simp only [unsettled, if_true]
    exact Answer.bind_eq_error.2 (Or.inl he)
  | cmpRight left =>
    simp only [Expr.eval]
    apply Answer.bind_eq_error.2
    exact Or.inr ⟨_, left, Answer.bind_eq_error.2 (Or.inl he)⟩
  | item found =>
    simp only [Expr.eval]
    apply Answer.bind_eq_error.2
    exact Or.inr ⟨_, found, Answer.bind_eq_error.2 (Or.inl he)⟩
  | listItem earlier =>
    simp only [Expr.eval]
    exact Answer.bind_eq_error.2 (Or.inl (evalAll_of_error earlier he))
  | argument earlier =>
    simp only [Expr.eval]
    exact Answer.bind_eq_error.2 (Or.inl (evalAll_of_error earlier he))

theorem Expr.Reaches.error (h : e.Reaches s e') (he : (e'.eval s).result = .error fault) :
    (e.eval s).result = .error fault := by
  induction h using Relation.ReflTransGen.head_induction_on with
  | refl => exact he
  | head hstep _ ih => exact hstep.error ih

theorem Expr.Raises.error (h : e.Raises s fault) : (e.eval s).result = .error fault := by
  cases h with
  | ref missing =>
    simp only [Expr.eval, Scope.resolve, missing]
    rfl
  | cmp left right bad =>
    simp only [Expr.eval]
    apply Answer.bind_eq_error.2
    refine Or.inr ⟨_, left, Answer.bind_eq_error.2 (Or.inr ⟨_, right, ?_⟩)⟩
    simp only [Answer.of, bad]
    rfl
  | @noList item container c found bad =>
    simp only [Expr.eval]
    apply Answer.bind_eq_error.2
    refine Or.inr ⟨_, found, ?_⟩
    split
    · rename_i items
      exact absurd rfl (bad items)
    · rfl
  | mem found value bad =>
    simp only [Expr.eval]
    apply Answer.bind_eq_error.2
    refine Or.inr ⟨_, found, Answer.bind_eq_error.2 (Or.inr ⟨_, value, ?_⟩)⟩
    simp only [Answer.of, bad]
    rfl
  | call values bad =>
    simp only [Expr.eval]
    exact Answer.bind_eq_error.2 (Or.inr ⟨_, values, bad⟩)

/-! ## Every fault arises somewhere -/

/-- Evaluating the expression comes to a part in which the fault arises. -/
def Expr.Fails (s : Scope) (e : Expr) (fault : EvalFault) : Prop :=
  ∃ e', e.Reaches s e' ∧ e'.Raises s fault

theorem Expr.Enters.fails (h : e.Enters s e') (h' : e'.Fails s fault) : e.Fails s fault := by
  obtain ⟨e'', hreach, hraise⟩ := h'
  exact ⟨e'', h.reaches hreach, hraise⟩

theorem Expr.Raises.fails (h : e.Raises s fault) : e.Fails s fault := ⟨e, .refl, h⟩

theorem map_eq_error {r : Except EvalFault α} {f : α → β} (h : r.map f = .error fault) :
    r = .error fault := by
  cases r with
  | error =>
    cases h
    rfl
  | ok => cases h

mutual

theorem Expr.fails_of_error : (e : Expr) → (e.eval s).result = .error fault → e.Fails s fault
  | .lit _, h => by cases h
  | .ref r, h => by
    simp only [Expr.eval, Scope.resolve] at h
    rcases hr : s.lookup r with why | v
    · rw [hr] at h
      cases h
      exact (Expr.Raises.ref hr).fails
    · rw [hr] at h
      cases h
  | .list items, h => by
    simp only [Expr.eval] at h
    rcases Answer.bind_eq_error.1 h with h | ⟨_, _, h⟩
    · obtain ⟨before, e, after, vs, rfl, hvs, he⟩ := fails_of_error_all items h
      exact (Expr.Enters.listItem hvs).fails he
    · cases h
  | .or l r, h => by
    simp only [Expr.eval] at h
    rcases Answer.bind_eq_error.1 h with h | ⟨a, ha, h⟩
    · exact (Expr.Enters.orLeft l r).fails (Expr.fails_of_error l h)
    · split at h
      · cases h
      · rename_i hfalse
        have henter : (Expr.or l r).Enters s r := .orRight ha (by simpa using hfalse)
        rcases Answer.bind_eq_error.1 h with h | ⟨_, _, h⟩
        · exact henter.fails (Expr.fails_of_error r h)
        · cases h
  | .and l r, h => by
    simp only [Expr.eval] at h
    rcases Answer.bind_eq_error.1 h with h | ⟨a, ha, h⟩
    · exact (Expr.Enters.andLeft l r).fails (Expr.fails_of_error l h)
    · split at h
      · rename_i htrue
        have henter : (Expr.and l r).Enters s r := .andRight ha htrue
        rcases Answer.bind_eq_error.1 h with h | ⟨_, _, h⟩
        · exact henter.fails (Expr.fails_of_error r h)
        · cases h
      · cases h
  | .not e, h => by
    simp only [Expr.eval] at h
    rcases Answer.bind_eq_error.1 h with h | ⟨_, _, h⟩
    · exact (Expr.Enters.not e).fails (Expr.fails_of_error e h)
    · cases h
  | .cmp op l r, h => by
    simp only [Expr.eval] at h
    rcases Answer.bind_eq_error.1 h with h | ⟨a, ha, h⟩
    · exact (Expr.Enters.cmpLeft op l r).fails (Expr.fails_of_error l h)
    · rcases Answer.bind_eq_error.1 h with h | ⟨b, hb, h⟩
      · exact (Expr.Enters.cmpRight ha).fails (Expr.fails_of_error r h)
      · exact (Expr.Raises.cmp ha hb (map_eq_error h)).fails
  | .mem item container, h => by
    simp only [Expr.eval] at h
    rcases Answer.bind_eq_error.1 h with h | ⟨c, hc, h⟩
    · exact (Expr.Enters.container item container).fails (Expr.fails_of_error container h)
    · split at h
      · rcases Answer.bind_eq_error.1 h with h | ⟨v, hv, h⟩
        · exact (Expr.Enters.item hc).fails (Expr.fails_of_error item h)
        · exact (Expr.Raises.mem hc hv (map_eq_error h)).fails
      · rename_i hlist
        cases h
        exact (Expr.Raises.noList hc hlist).fails
  | .call f args, h => by
    simp only [Expr.eval] at h
    rcases Answer.bind_eq_error.1 h with h | ⟨vs, hvs, h⟩
    · obtain ⟨before, e, after, vs, rfl, hvs, he⟩ := fails_of_error_all args h
      exact (Expr.Enters.argument hvs).fails he
    · exact (Expr.Raises.call hvs h).fails

theorem fails_of_error_all : (es : List Expr) → (evalAll s es).result = .error fault →
    ∃ before e after vs, es = before ++ e :: after ∧ (evalAll s before).result = .ok vs ∧
      e.Fails s fault
  | [], h => by cases h
  | e :: es, h => by
    simp only [evalAll] at h
    rcases Answer.bind_eq_error.1 h with h | ⟨v, hv, h⟩
    · exact ⟨[], e, es, [], rfl, rfl, Expr.fails_of_error e h⟩
    · rcases Answer.bind_eq_error.1 h with h | ⟨_, _, h⟩
      · obtain ⟨before, e₁, after, vs, rfl, hvs, he⟩ := fails_of_error_all es h
        refine ⟨e :: before, e₁, after, v :: vs, rfl, ?_, he⟩
        simp only [evalAll]
        exact Answer.bind_eq_ok.2 ⟨v, hv, Answer.bind_eq_ok.2 ⟨vs, hvs, rfl⟩⟩
      · cases h

end

/-- Evaluation fails just if it comes to a part in which that fault arises. -/
theorem Expr.eval_eq_error : (e.eval s).result = .error fault ↔ e.Fails s fault := by
  constructor
  · exact Expr.fails_of_error e
  · rintro ⟨e', hreach, hraise⟩
    exact hreach.error hraise.error

end GatedPipeline.Condition
