-- Why there is no release decision makes no difference to a condition: what
-- cannot be resolved makes it false, whatever the reason. And if it does not ask
-- for the decision, neither does the decision.
import GatedPipeline.Proofs.Condition.Relate
namespace GatedPipeline.Condition

variable {α β : Type} {s t : Scope} {r : Reference}

/-! ## Scopes that differ in a reason only -/

/-- The two scopes differ at most in the reason why there is no release decision. -/
structure Scope.Agrees (s t : Scope) : Prop where
  trigger : s.trigger = t.trigger
  matrix : s.matrix = t.matrix
  outputs : s.outputs = t.outputs
  release : s.release = t.release ∨
    ∃ m m', s.release = some (.error m) ∧ t.release = some (.error m')

theorem Scope.Agrees.lookup (h : s.Agrees t) (r : Reference) :
    Alike ((s.lookup r).mapError .unresolved) ((t.lookup r).mapError .unresolved) := by
  obtain ⟨trigger, matrix, outputs, release⟩ := s
  obtain ⟨trigger', matrix', outputs', release'⟩ := t
  obtain ⟨rfl, rfl, rfl, hrelease⟩ := h
  dsimp only at hrelease
  rcases hrelease with rfl | ⟨m, m', rfl, rfl⟩
  · exact .same _
  · obtain ⟨root, path⟩ := r
    rcases path with _ | ⟨k, ks⟩
    · cases root <;> exact .same _
    · cases root
      case release => exact .unresolved m m'
      all_goals exact .same _

theorem Scope.Agrees.apply (h : s.Agrees t) (f : Function) (vs : List Value) :
    f.apply vs s = f.apply vs t := by
  obtain ⟨trigger, _, _, _⟩ := s
  obtain ⟨trigger', _, _, _⟩ := t
  obtain ⟨rfl, _, _, _⟩ := h
  rfl

/-! ## Evaluation -/

/-- A condition holds in both scopes, or in neither. -/
theorem Scope.Agrees.holds (h : s.Agrees t) (expression : Option String) :
    (evaluate expression s).holds = (evaluate expression t).holds := by
  apply evaluate_alike
  intro _ e _ _
  apply Expr.eval_related respected_alike
  · intro f vs
    rw [h.apply f vs]
    exact .same _
  · intro r _
    exact h.lookup r

/-! ## A decision that is not asked for -/

theorem Answer.bind_of_unasked {a a' : Answer α} {f f' : α → Answer β}
    (h : (a.bind f).askedRelease = false) (ha : a.askedRelease = false → a'.result = a.result)
    (hf : ∀ x, (f x).askedRelease = false → (f' x).result = (f x).result) :
    (a'.bind f').result = (a.bind f).result := by
  obtain ⟨result, asked⟩ := a
  obtain ⟨result', _⟩ := a'
  cases result with
  | error fault =>
    obtain rfl : result' = .error fault := ha h
    rfl
  | ok x =>
    obtain ⟨hasked, hnext⟩ := Bool.or_eq_false_iff.1 h
    obtain rfl : result' = .ok x := ha hasked
    exact hf x hnext

section

variable {release : Option (Except String (List (String × String)))}

/-- A reference that does not ask for the decision has one value whatever the decision is. -/
theorem Scope.lookup_of_unasked (hs : s.release.isSome = true) (h : s.asksRelease r = false) :
    Scope.lookup { s with release } r = s.lookup r := by
  obtain ⟨root, path⟩ := r
  rcases path with _ | ⟨k, ks⟩
  · cases root <;> rfl
  · cases root
    case release => simp [asksRelease, hs] at h
    all_goals rfl

mutual

theorem Expr.eval_of_unasked (hs : s.release.isSome = true) : (e : Expr) →
    (e.eval s).askedRelease = false → (e.eval { s with release }).result = (e.eval s).result
  | .lit _, _ => rfl
  | .ref r, h => by
    simp only [Expr.eval, Scope.resolve] at h ⊢
    rw [Scope.lookup_of_unasked hs h]
  | .list items, h => by
    simp only [Expr.eval] at h ⊢
    exact Answer.bind_of_unasked h (evalAll_of_unasked hs items) fun _ _ => rfl
  | .or l r, h => by
    simp only [Expr.eval] at h ⊢
    refine Answer.bind_of_unasked h (Expr.eval_of_unasked hs l) fun a ha => ?_
    by_cases htrue : a.truthy = true
    · rw [if_pos htrue, if_pos htrue]
    · rw [if_neg htrue] at ha
      rw [if_neg htrue, if_neg htrue]
      exact Answer.bind_of_unasked ha (Expr.eval_of_unasked hs r) fun _ _ => rfl
  | .and l r, h => by
    simp only [Expr.eval] at h ⊢
    refine Answer.bind_of_unasked h (Expr.eval_of_unasked hs l) fun a ha => ?_
    by_cases htrue : a.truthy = true
    · rw [if_pos htrue] at ha
      rw [if_pos htrue, if_pos htrue]
      exact Answer.bind_of_unasked ha (Expr.eval_of_unasked hs r) fun _ _ => rfl
    · rw [if_neg htrue, if_neg htrue]
  | .not e, h => by
    simp only [Expr.eval] at h ⊢
    exact Answer.bind_of_unasked h (Expr.eval_of_unasked hs e) fun _ _ => rfl
  | .cmp op l r, h => by
    simp only [Expr.eval] at h ⊢
    refine Answer.bind_of_unasked h (Expr.eval_of_unasked hs l) fun _ ha => ?_
    exact Answer.bind_of_unasked ha (Expr.eval_of_unasked hs r) fun _ _ => rfl
  | .mem item container, h => by
    simp only [Expr.eval] at h ⊢
    refine Answer.bind_of_unasked h (Expr.eval_of_unasked hs container) fun c hc => ?_
    split at hc
    · exact Answer.bind_of_unasked hc (Expr.eval_of_unasked hs item) fun _ _ => rfl
    · rfl
  | .call f args, h => by
    simp only [Expr.eval] at h ⊢
    exact Answer.bind_of_unasked h (evalAll_of_unasked hs args) fun _ _ => rfl

theorem evalAll_of_unasked (hs : s.release.isSome = true) : (es : List Expr) →
    (evalAll s es).askedRelease = false →
      (evalAll { s with release } es).result = (evalAll s es).result
  | [], _ => rfl
  | e :: es, h => by
    simp only [evalAll] at h ⊢
    refine Answer.bind_of_unasked h (Expr.eval_of_unasked hs e) fun _ ha => ?_
    exact Answer.bind_of_unasked ha (evalAll_of_unasked hs es) fun _ _ => rfl

end

/-- A condition that does not ask for the decision holds, or does not, whatever the decision is. -/
theorem evaluate_of_unasked {expression : Option String} (hs : s.release.isSome = true)
    (h : (evaluate expression s).askedRelease = false) :
    (evaluate expression { s with release }).holds = (evaluate expression s).holds := by
  apply evaluate_alike
  rintro text e rfl hparse
  rw [evaluate_of_parse hparse] at h
  rw [e.eval_of_unasked hs h]
  exact .same _

end

end GatedPipeline.Condition
