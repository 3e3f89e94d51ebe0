-- The topological order puts every item after all that it depends on, lists
-- no item twice, and has every item unless it is too short.
import GatedPipeline.Graph.Order
import Mathlib.Data.List.Perm.Basic
namespace GatedPipeline.Graph

/-- Each item of the order comes after all that it depends on. -/
def Sorted (deps : String → List String) (order : List String) : Prop :=
  ∀ front x back, order = front ++ x :: back → ∀ d ∈ deps x, d ∈ front

theorem sorted_nil (deps : String → List String) : Sorted deps [] := by
  intro front x back h
  cases front <;> cases h

theorem sorted_snoc {deps : String → List String} {order : List String} {x : String}
    (h : Sorted deps order) (hx : ∀ d ∈ deps x, d ∈ order) : Sorted deps (order ++ [x]) := by
  intro front y back he d hd
  rcases List.eq_nil_or_concat back with rfl | ⟨back', z, rfl⟩
  · obtain ⟨rfl, hxy⟩ := List.append_inj' he rfl
    cases hxy
    exact hx d hd
  · have he' : order ++ [x] = (front ++ y :: back') ++ [z] := by simpa using he
    obtain ⟨hfront, _⟩ := List.append_inj' he' rfl
    exact h front y back' hfront d hd

/-! ## What waits -/

theorem perm_free (waiting : List Waiting) :
    ((free waiting).1 ++ (free waiting).2.map (·.1)).Perm (waiting.map (·.1)) := by
  simp only [free, List.partition_eq_filter_filter, ← List.map_append]
  exact (List.filter_append_perm _ _).map _

theorem perm_withNode (node : String) (waiting : List Waiting) :
    ((withNode node waiting).1 ++ (withNode node waiting).2.map (·.1)).Perm
      (waiting.map (·.1)) := by
  unfold withNode
  refine (perm_free _).trans ?_
  rw [List.map_map]
  exact List.Perm.refl _

theorem perm_atStart (deps : String → List String) (ids : List String) :
    ((atStart deps ids).1 ++ (atStart deps ids).2.map (·.1)).Perm ids := by
  have h := perm_free (ids.map fun i => (i, deps i))
  rwa [List.map_map, Function.comp_def, List.map_id'] at h

/-- Each item waits for just those of its dependencies that have not come. -/
def Pending (deps : String → List String) (come : List String) (waiting : List Waiting) : Prop :=
  ∀ w left, (w, left) ∈ waiting → ∀ d, d ∈ left ↔ d ∈ deps w ∧ d ∉ come

/-- And there is one for each: nothing that waits could have come already. -/
structure Blocked (deps : String → List String) (come : List String) (waiting : List Waiting) :
    Prop where
  pending : Pending deps come waiting
  waits : ∀ w left, (w, left) ∈ waiting → left ≠ []

/-- Whatever waits depends on something that has not come. -/
theorem Blocked.exists_missing {deps : String → List String} {come : List String}
    {waiting : List Waiting} (h : Blocked deps come waiting) {x : String}
    (hx : x ∈ waiting.map (·.1)) : ∃ d ∈ deps x, d ∉ come := by
  obtain ⟨⟨w, left⟩, hw, rfl⟩ := List.mem_map.1 hx
  obtain ⟨d, hd⟩ := List.exists_mem_of_ne_nil left (h.waits w left hw)
  exact ⟨d, (h.pending w left hw d).1 hd⟩

theorem blocked_free {deps : String → List String} {come : List String} {waiting : List Waiting}
    (h : Pending deps come waiting) :
    (∀ x ∈ (free waiting).1, ∀ d ∈ deps x, d ∈ come) ∧ Blocked deps come (free waiting).2 := by
  simp only [free, List.partition_eq_filter_filter]
  refine ⟨?_, fun w left hw => h w left (List.mem_filter.1 hw).1, fun w left hw => ?_⟩
  · intro x hx d hd
    obtain ⟨⟨w, left⟩, hw, rfl⟩ := List.mem_map.1 hx
    obtain ⟨hmem, hempty⟩ := List.mem_filter.1 hw
    have hleft : left = [] := by simpa using hempty
    by_contra hcome
    simpa [hleft] using (h w left hmem d).2 ⟨hd, hcome⟩
  · simpa using (List.mem_filter.1 hw).2

theorem blocked_atStart (deps : String → List String) (ids : List String) :
    (∀ x ∈ (atStart deps ids).1, ∀ d ∈ deps x, d ∈ ([] : List String)) ∧
      Blocked deps [] (atStart deps ids).2 := by
  apply blocked_free
  intro w left hw d
  obtain ⟨i, _, he⟩ := List.mem_map.1 hw
  cases he
  simp

theorem blocked_withNode {deps : String → List String} {come : List String} {node : String}
    {waiting : List Waiting} (h : Blocked deps come waiting) :
    (∀ x ∈ (withNode node waiting).1, ∀ d ∈ deps x, d ∈ come ++ [node]) ∧
      Blocked deps (come ++ [node]) (withNode node waiting).2 := by
  apply blocked_free
  intro w left hw d
  obtain ⟨⟨w', left'⟩, hmem, he⟩ := List.mem_map.1 hw
  cases he
  simp only [List.mem_filter, h.pending w left' hmem d, decide_eq_true_eq, List.mem_append,
    List.mem_singleton, not_or, and_assoc]

/-! ## The order -/

/-- Whatever has come stays, everything else was in the queue or waited, and what is left over
depends on something that is left over too. -/
theorem orderFrom_left {deps : String → List String} (done : List String) (waiting : List Waiting)
    (queue : List String) (hwait : Blocked deps done waiting) :
    ∃ rest left, orderFrom done waiting queue = done ++ rest ∧
      (rest ++ left.map (·.1)).Perm (queue ++ waiting.map (·.1)) ∧
      Blocked deps (done ++ rest) left := by
  induction done, waiting, queue using orderFrom.induct with
  | case1 done waiting => exact ⟨[], waiting, by simp [orderFrom], by simp, by simpa using hwait⟩
  | case2 done waiting node queue next ih =>
    obtain ⟨rest, left, he, hp, hleft⟩ := ih (blocked_withNode hwait).2
    refine ⟨node :: rest, left, ?_, ?_, by simpa using hleft⟩
    · rw [orderFrom, he]; simp
    · have hnext := perm_withNode node waiting
      have hq : (queue ++ next.1 ++ next.2.map (·.1)).Perm (queue ++ waiting.map (·.1)) := by
        rw [List.append_assoc]
        exact hnext.append_left queue
      simpa using (hp.trans hq).cons node

theorem orderFrom_sorted {deps : String → List String} (done : List String)
    (waiting : List Waiting) (queue : List String) (hdone : Sorted deps done)
    (hqueue : ∀ x ∈ queue, ∀ d ∈ deps x, d ∈ done) (hwait : Blocked deps done waiting) :
    Sorted deps (orderFrom done waiting queue) := by
  induction done, waiting, queue using orderFrom.induct with
  | case1 done waiting => simpa [orderFrom] using hdone
  | case2 done waiting node queue next ih =>
    rw [orderFrom]
    obtain ⟨hfree, hrest⟩ := @blocked_withNode deps done node waiting hwait
    refine ih (sorted_snoc hdone (hqueue node List.mem_cons_self)) ?_ hrest
    intro x hx d hd
    rcases List.mem_append.1 hx with hx | hx
    · exact List.mem_append_left _ (hqueue x (List.mem_cons_of_mem _ hx) d hd)
    · exact hfree x hx d hd

theorem topologicalOrder_sorted (deps : String → List String) (ids : List String) :
    Sorted deps (topologicalOrder deps ids) := by
  obtain ⟨hfree, hrest⟩ := blocked_atStart deps ids
  exact orderFrom_sorted [] _ _ (sorted_nil deps) hfree hrest

/-- Together with what is left over the order has every item once, and what is left over depends
on something that has not come. -/
theorem topologicalOrder_left (deps : String → List String) (ids : List String) :
    ∃ left, (topologicalOrder deps ids ++ left).Perm ids ∧
      ∀ x ∈ left, ∃ d ∈ deps x, d ∉ topologicalOrder deps ids := by
  obtain ⟨rest, left, he, hp, hleft⟩ :=
    orderFrom_left [] (atStart deps ids).2 (atStart deps ids).1 (blocked_atStart deps ids).2
  refine ⟨left.map (·.1), ?_, ?_⟩
  · rw [topologicalOrder, he]
    simpa using hp.trans (perm_atStart deps ids)
  · rw [topologicalOrder, he]
    exact fun x hx => hleft.exists_missing hx

/-- An order with as many items as there are has each of them once. -/
theorem topologicalOrder_perm {deps : String → List String} {ids : List String}
    (h : (topologicalOrder deps ids).length = ids.length) :
    (topologicalOrder deps ids).Perm ids := by
  obtain ⟨left, hp, _⟩ := topologicalOrder_left deps ids
  have hlen := hp.length_eq
  rw [List.length_append] at hlen
  rw [List.eq_nil_of_length_eq_zero (l := left) (by omega)] at hp
  simpa using hp

end GatedPipeline.Graph
