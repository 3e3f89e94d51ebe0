-- Evaluating one condition in two scopes. Evaluation goes on with what it has
-- found and with nothing else, so a relation between results that this respects
-- holds of the whole as soon as it holds of the references that are written there.
import GatedPipeline.Condition.Eval
namespace GatedPipeline.Condition
open GatedPipeline.Text

variable {α β : Type} {s t : Scope}

/-! ## Conditions that are read -/

theorem evaluate_of_parse {text : String} {e : Expr} (h : parse text = .ok e) (s : Scope) :
    evaluate (some text) s = .ofAnswer (e.eval s) := by
  have hblank : isBlankText text = false := by
    rcases hb : isBlankText text with _ | _
    · rfl
    · unfold parse at h
      rw [hb] at h
      cases h
  unfold evaluate
  simp only [hblank, h]
  rfl

theorem Verdict.holds_ofAnswer_true {a : Answer Value} :
    (Verdict.ofAnswer a).holds = .ok true ↔ ∃ v, a.result = .ok v ∧ v.truthy = true := by
  obtain ⟨r, _⟩ := a
  rcases r with (m | _) | v
  · simp [Verdict.ofAnswer]
  · simp [Verdict.ofAnswer]
  · simp [Verdict.ofAnswer]

/-! ## Relations that evaluation respects -/

/-- A relation that every result has to itself, and that two computations keep if they begin with
related results and go on in related ways. -/
structure Respected (R : (α : Type) → Except EvalFault α → Except EvalFault α → Prop) : Prop where
  refl {α : Type} (r : Except EvalFault α) : R α r r
  bind {α β : Type} {a a' : Answer α} {f f' : α → Answer β} (h : R α a.result a'.result)
    (hf : ∀ x, R β (f x).result (f' x).result) : R β (a.bind f).result (a'.bind f').result

variable {R : (α : Type) → Except EvalFault α → Except EvalFault α → Prop}

/-- Going on with a result in the same way. -/
theorem Respected.next (hR : Respected R) {a a' : Answer α} {f f' : α → Answer β}
    (h : R α a.result a'.result) (hf : ∀ x, (f x).result = (f' x).result) :
    R β (a.bind f).result (a'.bind f').result := by
  apply hR.bind h
  intro x
  rw [hf x]
  exact hR.refl _

mutual

theorem Expr.eval_related (hR : Respected R)
    (hcall : ∀ (f : Function) vs, R Value (f.apply vs s) (f.apply vs t)) : (e : Expr) →
    (∀ r ∈ e.references, R Value (s.resolve r).result (t.resolve r).result) →
      R Value (e.eval s).result (e.eval t).result
  | .lit _, _ => hR.refl _
  | .ref r, h => h r (by simp [Expr.references])
  | .list items, h => by
    simp only [Expr.references] at h
    simp only [Expr.eval]
    apply hR.next (evalAll_related hR hcall items h)
    intro
    rfl
  | .or l r, h => by
    simp only [Expr.references, List.forall_mem_append] at h
    obtain ⟨hl, hr⟩ := h
    simp only [Expr.eval]
    apply hR.bind (Expr.eval_related hR hcall l hl)
    intro a
    split
    · exact hR.refl _
    · exact hR.next (Expr.eval_related hR hcall r hr) fun _ => rfl
  | .and l r, h => by
    simp only [Expr.references, List.forall_mem_append] at h
    obtain ⟨hl, hr⟩ := h
    simp only [Expr.eval]
    apply hR.bind (Expr.eval_related hR hcall l hl)
    intro a
    split
    · exact hR.next (Expr.eval_related hR hcall r hr) fun _ => rfl
    · exact hR.refl _
  | .not e, h => by
    simp only [Expr.references] at h
    simp only [Expr.eval]
    exact hR.next (Expr.eval_related hR hcall e h) fun _ => rfl
  | .cmp op l r, h => by
    simp only [Expr.references, List.forall_mem_append] at h
    obtain ⟨hl, hr⟩ := h
    simp only [Expr.eval]
    apply hR.bind (Expr.eval_related hR hcall l hl)
    intro
    exact hR.next (Expr.eval_related hR hcall r hr) fun _ => rfl
  | .mem item container, h => by
    simp only [Expr.references, List.forall_mem_append] at h
    obtain ⟨hitem, hcontainer⟩ := h
    simp only [Expr.eval]
    apply hR.bind (Expr.eval_related hR hcall container hcontainer)
    intro c
    split
    · exact hR.next (Expr.eval_related hR hcall item hitem) fun _ => rfl
    · exact hR.refl _
  | .call f args, h => by
    simp only [Expr.references] at h
    simp only [Expr.eval]
    apply hR.bind (evalAll_related hR hcall args h)
    intro vs
    exact hcall f vs

theorem evalAll_related (hR : Respected R)
    (hcall : ∀ (f : Function) vs, R Value (f.apply vs s) (f.apply vs t)) : (es : List Expr) →
    (∀ r ∈ referencesOfAll es, R Value (s.resolve r).result (t.resolve r).result) →
      R (List Value) (evalAll s es).result (evalAll t es).result
  | [], _ => hR.refl _
  | e :: es, h => by
    simp only [referencesOfAll, List.forall_mem_append] at h
    obtain ⟨he, hes⟩ := h
    simp only [evalAll]
    apply hR.bind (Expr.eval_related hR hcall e he)
    intro
    exact hR.next (evalAll_related hR hcall es hes) fun _ => rfl

end

/-! ## Results that differ in a reason only -/

/-- The same value, the same breakdown, or two reasons why something cannot be resolved. -/
inductive Alike : Except EvalFault α → Except EvalFault α → Prop
  | same (r : Except EvalFault α) : Alike r r
  | unresolved (m m' : String) : Alike (.error (.unresolved m)) (.error (.unresolved m'))

theorem respected_alike : Respected fun _ => Alike where
  refl r := .same r
  bind {_ _ a a' f f'} h hf := by
    obtain ⟨r, _⟩ := a
    obtain ⟨r', _⟩ := a'
    cases h with
    | same =>
      cases r with
      | error e => exact .same _
      | ok x => exact hf x
    | unresolved m m' => exact .unresolved m m'

theorem Verdict.holds_ofAnswer {a a' : Answer Value} (h : Alike a.result a'.result) :
    (Verdict.ofAnswer a).holds = (Verdict.ofAnswer a').holds := by
  obtain ⟨r, _⟩ := a
  obtain ⟨r', _⟩ := a'
  cases h <;> rfl

/-- A condition that comes to results alike holds in both scopes, or in neither. -/
theorem evaluate_alike {expression : Option String}
    (h : ∀ text e, expression = some text → parse text = .ok e →
      Alike (e.eval s).result (e.eval t).result) :
    (evaluate expression s).holds = (evaluate expression t).holds := by
  unfold evaluate
  split
  · rfl
  · split
    · rfl
    · split
      · rename_i e hparse
        exact Verdict.holds_ofAnswer (h _ e rfl hparse)
      · rfl
      · rfl

/-! ## Results that are kept -/

/-- A value in the first result is the value of the second one. -/
def Kept (r r' : Except EvalFault α) : Prop := ∀ v, r = .ok v → r' = .ok v

theorem respected_kept : Respected fun _ => Kept where
  refl _ _ h := h
  bind {_ _ a a' f f'} h hf := by
    intro v hv
    obtain ⟨r, _⟩ := a
    obtain ⟨r', _⟩ := a'
    cases r with
    | error e => cases hv
    | ok x =>
      obtain rfl : r' = .ok x := h x rfl
      exact hf x v hv

end GatedPipeline.Condition
