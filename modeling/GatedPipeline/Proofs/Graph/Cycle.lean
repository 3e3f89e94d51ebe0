-- Cycles, and what comes of instances that have none. The instances that do
-- not come in the order are those on a cycle and those that depend on one;
-- when all come, the ancestors of an instance are all that it depends on.
import GatedPipeline.Proofs.Graph.Build
import Mathlib.Data.Fintype.Pigeonhole
import Mathlib.Data.Set.Finite.Basic
namespace GatedPipeline
open Relation

/-! ## Texts in rising order -/

namespace Text

theorem mem_sortTexts {x : String} {xs : List String} : x ∈ sortTexts xs ↔ x ∈ xs :=
  List.mem_mergeSort

theorem pairwise_sortTexts {xs : List String} (h : xs.Nodup) :
    (sortTexts xs).Pairwise (· < ·) := by
  have hle : ∀ a b : String, (!decide (b < a)) = true ↔ a ≤ b := by
    intro a b
    rw [Bool.not_eq_true', decide_eq_false_iff_not, String.not_lt]
  have hsorted : (sortTexts xs).Pairwise fun a b => (!decide (b < a)) = true := by
    refine List.pairwise_mergeSort (fun a b c hab hbc => ?_) (fun a b => ?_) xs
    · exact (hle a c).2 (String.le_trans ((hle a b).1 hab) ((hle b c).1 hbc))
    · rw [Bool.or_eq_true, hle, hle]
      exact String.le_total a b
  have hnodup : (sortTexts xs).Nodup := (List.mergeSort_perm _ _).nodup_iff.2 h
  refine (hsorted.and hnodup).imp ?_
  rintro a b ⟨hab, hne⟩
  exact String.not_le.1 fun hba => hne (String.le_antisymm ((hle a b).1 hab) hba)

end Text

namespace Graph

/-! ## Cycles -/

/-- The item is on a cycle, or depends on one that is, directly or through others. -/
def Stuck {α : Type} (needs : α → α → Prop) (x : α) : Prop :=
  TransGen needs x x ∨ ∃ c, TransGen needs x c ∧ TransGen needs c c

section Stuck

variable {α : Type} {needs : α → α → Prop} {x : α}

/-- What is stuck is so for one of the items that it needs. -/
theorem Stuck.exists_needs (h : Stuck needs x) : ∃ d, needs x d ∧ Stuck needs d := by
  have hcycle : ∃ c, TransGen needs x c ∧ TransGen needs c c := h.elim (fun hx => ⟨x, hx, hx⟩) id
  obtain ⟨c, hxc, hcc⟩ := hcycle
  rcases TransGen.head'_iff.1 hxc with ⟨d, hd, hdc⟩
  rcases reflTransGen_iff_eq_or_transGen.1 hdc with rfl | hdc
  · exact ⟨c, hd, Or.inl hcc⟩
  · exact ⟨d, hd, Or.inr ⟨c, hdc, hcc⟩⟩

/-- Finitely many items of which each needs another one of them are all stuck: who goes from need
to need comes somewhere twice. -/
theorem stuck_of_forall_needs {xs : List α} (h : ∀ y ∈ xs, ∃ d ∈ xs, needs y d) (hx : x ∈ xs) :
    Stuck needs x := by
  choose! next hmem hneeds using h
  let walk : ℕ → {y // y ∈ xs} := fun n => (fun y => ⟨next y.1, hmem y.1 y.2⟩)^[n] ⟨x, hx⟩
  have hstep : ∀ n, needs (walk n).1 (walk (n + 1)).1 := by
    intro n
    simp only [walk, Function.iterate_succ_apply']
    exact hneeds _ (walk n).2
  have hwalk : ∀ m n, m < n → TransGen needs (walk m).1 (walk n).1 := by
    intro m n hmn
    induction n, hmn using Nat.le_induction with
    | base => exact .single (hstep m)
    | succ n _ ih => exact ih.tail (hstep n)
  have hcycle : ∃ m n, m < n ∧ walk m = walk n := by
    have : Finite {y // y ∈ xs} := xs.finite_toSet.to_subtype
    obtain ⟨m, n, hne, he⟩ := Finite.exists_ne_map_eq_of_infinite walk
    rcases Nat.lt_or_gt_of_ne hne with hmn | hnm
    · exact ⟨m, n, hmn, he⟩
    · exact ⟨n, m, hnm, he.symm⟩
  obtain ⟨m, n, hmn, he⟩ := hcycle
  have hcc : TransGen needs (walk m).1 (walk m).1 := by
    have h := hwalk m n hmn
    rwa [← he] at h
  rcases Nat.eq_zero_or_pos m with rfl | hpos
  · exact Or.inl hcc
  · exact Or.inr ⟨(walk m).1, hwalk 0 m hpos, hcc⟩

end Stuck

/-! ## What the order leaves out -/

/-- When some of the items are put in front, and each of the others waits for another one of those,
then the others are stuck. -/
theorem stuck_of_left {deps : String → List String} {front left items : List String}
    (hall : (front ++ left).Perm items) (hclosed : ∀ x ∈ items, ∀ d ∈ deps x, d ∈ items)
    (hleft : ∀ x ∈ left, ∃ d ∈ deps x, d ∉ front) :
    ∀ x ∈ left, Stuck (fun i d => d ∈ deps i) x := by
  have hneeds : ∀ x ∈ left, ∃ d ∈ left, d ∈ deps x := by
    intro x hx
    obtain ⟨d, hd, hnot⟩ := hleft x hx
    have hitem : d ∈ items := hclosed x (hall.mem_iff.1 (List.mem_append_right _ hx)) d hd
    exact ⟨d, (List.mem_append.1 (hall.mem_iff.2 hitem)).resolve_left hnot, hd⟩
  exact fun _ => stuck_of_forall_needs hneeds

theorem Sorted.of_append {deps : String → List String} {front back : List String}
    (h : Sorted deps (front ++ back)) : Sorted deps front :=
  fun before x after he => h before x (after ++ back) (by simp [he])

/-- The items before one that depends on them come before it. -/
theorem Sorted.mem_of_mem {deps : String → List String} {order : List String} {x d : String}
    (h : Sorted deps order) (hx : x ∈ order) (hd : d ∈ deps x) : d ∈ order := by
  obtain ⟨front, back, rfl⟩ := List.append_of_mem hx
  exact List.mem_append_left _ (h front x back rfl d hd)

/-- Nothing in a sorted order is stuck: the first such item would come after another one. -/
theorem Sorted.not_stuck {deps : String → List String} {order : List String}
    (h : Sorted deps order) : ∀ x ∈ order, ¬ Stuck (fun i d => d ∈ deps i) x := by
  induction order using List.reverseRecOn with
  | nil => simp
  | append_singleton front y ih =>
    intro x hx hstuck
    rcases List.mem_append.1 hx with hx | hx
    · exact ih h.of_append x hx hstuck
    · obtain rfl := List.mem_singleton.1 hx
      obtain ⟨d, hd, hstuck⟩ := hstuck.exists_needs
      exact ih h.of_append d (h front x [] rfl d hd) hstuck

section Order

variable {deps : String → List String} {ids : List String}

/-- Of items that depend on each other only, those that the order leaves out are stuck: each of them
depends on another one. -/
theorem topologicalOrder_stuck (hclosed : ∀ x ∈ ids, ∀ d ∈ deps x, d ∈ ids) :
    ∃ left, (topologicalOrder deps ids ++ left).Perm ids ∧
      ∀ x ∈ left, Stuck (fun i d => d ∈ deps i) x := by
  obtain ⟨left, hperm, hleft⟩ := topologicalOrder_left deps ids
  exact ⟨left, hperm, stuck_of_left hperm hclosed hleft⟩

/-- And nothing else is. -/
theorem not_mem_topologicalOrder_iff (hclosed : ∀ x ∈ ids, ∀ d ∈ deps x, d ∈ ids) {x : String}
    (hx : x ∈ ids) :
    x ∉ topologicalOrder deps ids ↔ Stuck (fun i d => d ∈ deps i) x := by
  obtain ⟨left, hperm, hleft⟩ := topologicalOrder_stuck hclosed
  constructor
  · exact fun hout => hleft x ((List.mem_append.1 (hperm.mem_iff.2 hx)).resolve_left hout)
  · exact fun hstuck hin => (topologicalOrder_sorted deps ids).not_stuck x hin hstuck

/-- So the order has all of them just if none is stuck. -/
theorem length_topologicalOrder_iff (hclosed : ∀ x ∈ ids, ∀ d ∈ deps x, d ∈ ids) :
    (topologicalOrder deps ids).length = ids.length ↔
      ∀ x ∈ ids, ¬ Stuck (fun i d => d ∈ deps i) x := by
  constructor
  · intro hlen x hx hstuck
    exact (not_mem_topologicalOrder_iff hclosed hx).2 hstuck
      ((topologicalOrder_perm hlen).mem_iff.2 hx)
  · intro hnone
    obtain ⟨left, hperm, hleft⟩ := topologicalOrder_stuck hclosed
    have hnil : left = [] := List.eq_nil_iff_forall_not_mem.2 fun x hx =>
      hnone x (hperm.mem_iff.1 (List.mem_append_right _ hx)) (hleft x hx)
    simpa [hnil] using hperm.length_eq

end Order

/-- What an item of a sorted order depends on is in the order. -/
theorem Sorted.mem_of_transGen {deps : String → List String} {order : List String} {x a : String}
    (h : Sorted deps order) (hx : x ∈ order) (hxa : TransGen (fun i d => d ∈ deps i) x a) :
    a ∈ order := by
  induction hxa with
  | single hd => exact h.mem_of_mem hx hd
  | tail _ hd ih => exact h.mem_of_mem ih hd

end Graph

namespace StageGraph

/-! ## What an instance needs -/

/-- The stage of the one instance needs the stage of the other. -/
def Needs (all : List Instance) (i d : String) : Prop :=
  ∃ a ∈ all, ∃ b ∈ all, a.id = i ∧ b.id = d ∧ b.name ∈ a.template.needs

instance (all : List Instance) (i d : String) : Decidable (Needs all i d) :=
  inferInstanceAs (Decidable (∃ a ∈ all, ∃ b ∈ all, a.id = i ∧ b.id = d ∧
    b.name ∈ a.template.needs))

theorem mem_ids_of_needs {all : List Instance} {i d : String} (h : Needs all i d) :
    i ∈ all.map Instance.id ∧ d ∈ all.map Instance.id := by
  obtain ⟨a, ha, b, hb, rfl, rfl, _⟩ := h
  exact ⟨List.mem_map_of_mem ha, List.mem_map_of_mem hb⟩

/-- What building makes of the instances before it resolves any reference. -/
structure Drafted (all : List Instance) (g : StageGraph) : Prop where
  distinct : (all.map Instance.id).Nodup
  byId : g.byId = named all
  direct : g.direct = directAmong (named all)
  order : g.order = Graph.topologicalOrder g.dependencies g.ids
  ancestors : g.ancestors = ancestorsAlong g.dependencies g.order

theorem Built.drafted {all : List Instance} {g : StageGraph} (h : Built all g) : Drafted all g :=
  ⟨h.distinct, h.byId, h.direct, h.order, h.ancestors⟩

section Drafted

variable {all : List Instance} {g : StageGraph} {id d : String}

theorem Drafted.ids (h : Drafted all g) : g.ids = all.map Instance.id := by
  rw [StageGraph.ids, h.byId, ids_named]

theorem Drafted.mem_dependencies (h : Drafted all g) :
    d ∈ g.dependencies id ↔ Needs all id d := by
  have hnodup : ((named all).map (·.1)).Nodup := by
    rw [ids_named]
    exact h.distinct
  rw [dependencies, h.direct, directAmong]
  have hmap := getPair?_map (fun _ i => ((named all).filter fun p =>
    i.template.needs.contains p.2.name).map (·.1)) id (named all)
  rw [hmap]
  constructor
  · intro hd
    rcases hi : getPair? id (named all) with _ | a
    · simp [hi] at hd
    · obtain ⟨a', ha, he⟩ := List.mem_map.1 (mem_of_getPair? hi)
      cases he
      simp only [hi, Option.map_some, Option.getD_some, List.mem_map, List.mem_filter,
        List.contains_iff_mem] at hd
      obtain ⟨⟨_, b⟩, ⟨hb, hneeds⟩, rfl⟩ := hd
      obtain ⟨b', hb', he⟩ := List.mem_map.1 hb
      cases he
      exact ⟨a, ha, b, hb', rfl, rfl, hneeds⟩
  · rintro ⟨a, ha, b, hb, rfl, rfl, hneeds⟩
    have hi : getPair? a.id (named all) = some a :=
      getPair?_of_mem hnodup (List.mem_map_of_mem (f := fun i => (i.id, i)) ha)
    simp only [hi, Option.map_some, Option.getD_some, List.mem_map, List.mem_filter,
      List.contains_iff_mem]
    exact ⟨(b.id, b), ⟨List.mem_map_of_mem (f := fun i => (i.id, i)) hb, hneeds⟩, rfl⟩

theorem Drafted.needs_eq (h : Drafted all g) :
    (fun i d => d ∈ g.dependencies i) = Needs all := by
  funext i d
  exact propext h.mem_dependencies

theorem Drafted.closed (h : Drafted all g) : ∀ i ∈ g.ids, ∀ d ∈ g.dependencies i, d ∈ g.ids := by
  intro i _ d hd
  rw [h.ids]
  exact (mem_ids_of_needs (h.mem_dependencies.1 hd)).2

/-- What is left out of the order is what is stuck. -/
theorem Drafted.stuck_iff (h : Drafted all g) :
    Graph.Stuck (Needs all) id ↔ id ∈ g.ids ∧ id ∉ g.order := by
  have hout : ∀ hid : id ∈ g.ids, id ∉ g.order ↔ Graph.Stuck (Needs all) id := by
    rw [h.order, ← h.needs_eq]
    exact Graph.not_mem_topologicalOrder_iff h.closed
  constructor
  · intro hstuck
    obtain ⟨_, hneeds, _⟩ := hstuck.exists_needs
    have hid : id ∈ g.ids := h.ids ▸ (mem_ids_of_needs hneeds).1
    exact ⟨hid, (hout hid).2 hstuck⟩
  · exact fun ⟨hid, hnot⟩ => (hout hid).1 hnot

/-- The order has all instances just if there is no cycle. -/
theorem Drafted.complete_iff (h : Drafted all g) :
    g.order.length = g.ids.length ↔ ¬ ∃ id, TransGen (Needs all) id id := by
  have hlength := Graph.length_topologicalOrder_iff h.closed
  rw [← h.order, h.needs_eq] at hlength
  rw [hlength]
  constructor
  · rintro hnone ⟨id, hcycle⟩
    exact hnone id (h.stuck_iff.1 (Or.inl hcycle)).1 (Or.inl hcycle)
  · rintro hacyclic id _ (hcycle | ⟨c, _, hcycle⟩)
    · exact hacyclic ⟨id, hcycle⟩
    · exact hacyclic ⟨c, hcycle⟩

end Drafted

/-! ## Ancestors -/

/-- Along a sorted order the table of ancestors is complete: the entries of what an item depends on
are there when its own is made. -/
theorem mem_ancestorsAlong_of_transGen {deps : String → List String} {order : List String}
    (hsorted : Graph.Sorted deps order) (hnodup : order.Nodup) {i a : String} (hi : i ∈ order)
    (ha : TransGen (fun i d => d ∈ deps i) i a) :
    a ∈ (getPair? i (ancestorsAlong deps order)).getD [] := by
  -- the table as it is when a part of the order has been gone through
  have hfront : ∀ front back, order = front ++ back →
      let table := front.foldl (fun table i =>
        let own := deps i
        let all := own ++ own.flatMap fun d => (getPair? d table).getD []
        table ++ [(i, order.filter fun a => all.contains a)]) []
      table.map (·.1) = front ∧ ∀ i ∈ front, ∀ a, TransGen (fun i d => d ∈ deps i) i a →
        a ∈ (getPair? i table).getD [] := by
    intro front
    induction front using List.reverseRecOn with
    | nil => simp
    | append_singleton front x ih =>
      intro back he
      obtain ⟨hkeys, hbefore⟩ := ih (x :: back) (by simp [he])
      rw [List.foldl_append, List.foldl_cons, List.foldl_nil]
      generalize front.foldl _ [] = table at hkeys hbefore
      refine ⟨by simp [hkeys], fun i hi a ha => ?_⟩
      rw [getPair?_append]
      rcases List.mem_append.1 hi with hi | hi
      · obtain ⟨as, has⟩ := exists_getPair?_of_key_mem (hkeys ▸ hi)
        simpa [has] using hbefore i hi a ha
      · obtain rfl := List.mem_singleton.1 hi
        have hnew : i ∉ front := by
          rw [he, List.append_assoc] at hnodup
          exact fun hm => List.disjoint_of_nodup_append hnodup hm (by simp)
        have hnone : getPair? i table = none := getPair?_eq_none_iff.2 (hkeys ▸ hnew)
        have hin : i ∈ order := by simp [he]
        have hown : a ∈ deps i ∨ ∃ d ∈ deps i, a ∈ (getPair? d table).getD [] := by
          obtain ⟨d, hd, hda⟩ := TransGen.head'_iff.1 ha
          rcases reflTransGen_iff_eq_or_transGen.1 hda with rfl | hda
          · exact Or.inl hd
          · have hdfront : d ∈ front := hsorted front i back (by simp [he]) d hd
            exact Or.inr ⟨d, hd, hbefore d hdfront a hda⟩
        simp only [hnone, Option.none_or, getPair?, if_true, Option.getD_some, List.mem_filter,
          List.contains_iff_mem, List.mem_append, List.mem_flatMap]
        exact ⟨hsorted.mem_of_transGen hin ha, hown⟩
  exact (hfront order [] (by simp)).2 i hi a ha

/-- All instances are in the order, each after what it depends on, and what comes after an instance
through chains of dependencies is known. -/
structure Ordered (all : List Instance) (g : StageGraph) : Prop where
  perm : g.order.Perm (all.map Instance.id)
  after : ∀ {before id later}, g.order = before ++ id :: later → ∀ {d}, Needs all id d → d ∈ before
  descendants : ∀ {id d}, id ∈ g.descendants d ↔ TransGen (Needs all) id d

theorem Drafted.ordered {all : List Instance} {g : StageGraph} (h : Drafted all g)
    (hlen : g.order.length = g.ids.length) : Ordered all g := by
  have hperm : g.order.Perm g.ids := by
    rw [h.order] at hlen ⊢
    exact Graph.topologicalOrder_perm hlen
  have hsorted : Graph.Sorted g.dependencies g.order :=
    h.order ▸ Graph.topologicalOrder_sorted _ _
  have hids : g.ids = all.map Instance.id := h.ids
  refine ⟨hids ▸ hperm, fun he d hd => hsorted _ _ _ he d (h.mem_dependencies.2 hd), ?_⟩
  intro id d
  rw [descendants, List.mem_filter, List.contains_iff_mem, ancestorsOf, h.ancestors, ← h.needs_eq]
  constructor
  · exact fun hm => transGen_of_mem_ancestorsAlong hm.2
  · intro hd
    have hid : id ∈ g.order := by
      obtain ⟨_, hneeds, _⟩ := TransGen.head'_iff.1 hd
      rw [hperm.mem_iff, hids]
      exact (mem_ids_of_needs (h.mem_dependencies.1 hneeds)).1
    have hnodup : g.order.Nodup := hperm.nodup_iff.2 (hids ▸ h.distinct)
    exact ⟨hid, mem_ancestorsAlong_of_transGen hsorted hnodup hid hd⟩

/-! ## Faults of references -/

/-- Whatever is wrong, it is not a cycle. -/
def NoCycle {α : Type} (answer : Except PlanFault α) : Prop :=
  ∀ stuck, answer ≠ .error (.cycle stuck)

section NoCycle

variable {α β : Type}

theorem NoCycle.ok (a : α) : NoCycle (.ok a) := fun _ h => by cases h

theorem NoCycle.bind {answer : Except PlanFault α} {next : α → Except PlanFault β}
    (h : NoCycle answer) (hnext : ∀ a, NoCycle (next a)) : NoCycle (answer >>= next) := by
  rcases answer with fault | a
  · intro stuck hf
    cases hf
    exact h stuck rfl
  · exact hnext a

theorem NoCycle.foldlM {step : β → α → Except PlanFault β} (h : ∀ b a, NoCycle (step b a))
    (l : List α) (b : β) : NoCycle (l.foldlM step b) := by
  induction l generalizing b with
  | nil => exact .ok b
  | cons a l ih => exact (h b a).bind ih

theorem NoCycle.mapM {f : α → Except PlanFault β} (h : ∀ a, NoCycle (f a)) (l : List α) :
    NoCycle (l.mapM f) := by
  induction l with
  | nil => exact .ok []
  | cons a l ih =>
    rw [List.mapM_cons]
    exact (h a).bind fun b => ih.bind fun bs => .ok (b :: bs)

theorem noCycle_resolve (g : StageGraph) (i : Instance) (ref : OutputRef) :
    NoCycle (g.resolve i ref) := by
  intro stuck h
  simp only [resolve] at h
  repeat' split at h
  all_goals cases h

theorem noCycle_resolveInputs (g : StageGraph) (i : Instance) : NoCycle (g.resolveInputs i) := by
  refine NoCycle.foldlM (fun found raw => NoCycle.bind ?_ fun ref =>
    (noCycle_resolve g i ref).bind fun source => .ok _) _ _
  intro stuck h
  unfold parseRef at h
  split at h <;> cases h

theorem noCycle_resolveCondition (g : StageGraph) (i : Instance) :
    NoCycle (g.resolveCondition i) := by
  unfold resolveCondition
  split
  · exact .ok _
  · split
    · exact .ok _
    · split
      · exact fun stuck h => by cases h
      · exact NoCycle.mapM (fun _ => (noCycle_resolve g i _).bind fun _ => .ok _) _

theorem noCycle_resolveAll (g : StageGraph) (is : List Instance) : NoCycle (g.resolveAll is) := by
  induction is generalizing g with
  | nil => exact .ok g
  | cons i is ih =>
    exact (noCycle_resolveInputs g i).bind fun _ =>
      (noCycle_resolveCondition g i).bind fun _ => ih _

end NoCycle

/-! ## Building -/

/-- The graph of the instances before any reference is resolved. -/
def draft (all : List Instance) : StageGraph :=
  let g : StageGraph := ⟨named all, directAmong (named all), [], [], [], []⟩
  let order := Graph.topologicalOrder g.dependencies g.ids
  { g with order, ancestors := ancestorsAlong g.dependencies order }

theorem drafted_draft {all : List Instance} (h : (all.map Instance.id).Nodup) :
    Drafted all (draft all) := ⟨h, rfl, rfl, rfl, rfl⟩

/-- With distinct identities and known needs it is only a question of the order whether references
come to be resolved. -/
theorem build_eq {all : List Instance} (distinct : (all.map Instance.id).Nodup)
    (known : ∀ i ∈ all, ∀ need ∈ i.template.needs, ∃ j ∈ all, j.name = need) :
    build all = if (draft all).order.length = (draft all).ids.length then
        (draft all).resolveAll all
      else .error (.cycle
        (Text.sortTexts ((draft all).ids.filter fun i => !(draft all).order.contains i))) := by
  have hunknown : unknownNeed? all = none := by
    refine List.findSome?_eq_none_iff.2 fun i hi => ?_
    refine Option.map_eq_none_iff.2 (List.find?_eq_none.2 fun need hneed => ?_)
    obtain ⟨j, hj, hname⟩ := known i hi need hneed
    simp only [Bool.not_eq_true', Bool.not_eq_false]
    exact List.any_eq_true.2 ⟨j, hj, by simp [hname]⟩
  unfold build
  rw [duplicateId?_eq_none_iff.2 distinct, hunknown]
  rfl

/-- Instances with distinct identities, whose needs name stages, are refused for a cycle just if
their dependencies have one; a dependency of an instance on itself is one. Those that are named,
in rising order, are the instances on a cycle and those that depend on one. Without a cycle all
instances are in the order, each after its dependencies, and the descendants of an instance are
those that depend on it, directly or through others. -/
theorem a_cycle_is_found_with_all_that_is_stuck_on_it {all : List Instance}
    (distinct : (all.map Instance.id).Nodup)
    (known : ∀ i ∈ all, ∀ need ∈ i.template.needs, ∃ j ∈ all, j.name = need) :
    ((∃ stuck, build all = .error (.cycle stuck)) ↔ ∃ id, TransGen (Needs all) id id) ∧
      (∀ stuck, build all = .error (.cycle stuck) →
        stuck.Pairwise (· < ·) ∧ ∀ id, id ∈ stuck ↔ Graph.Stuck (Needs all) id) ∧
      ((¬ ∃ id, TransGen (Needs all) id id) →
        ∃ g, Ordered all g ∧ build all = g.resolveAll all) ∧
      ∀ g, build all = .ok g → Ordered all g := by
  have hdraft := drafted_draft distinct
  have hstuck : ∀ stuck, build all = .error (.cycle stuck) ↔
      (draft all).order.length ≠ (draft all).ids.length ∧ stuck = Text.sortTexts
        ((draft all).ids.filter fun i => !(draft all).order.contains i) := by
    intro stuck
    rw [build_eq distinct known]
    split
    · rename_i hlen
      simp [noCycle_resolveAll _ _ stuck, hlen]
    · rename_i hlen
      simp [hlen, eq_comm]
  refine ⟨?_, ?_, ?_, ?_⟩
  · rw [← not_iff_not, ← hdraft.complete_iff]
    simp only [hstuck, exists_and_left, exists_eq, and_true, ne_eq, not_not]
  · intro stuck h
    obtain ⟨_, rfl⟩ := (hstuck stuck).1 h
    refine ⟨Text.pairwise_sortTexts ((hdraft.ids ▸ distinct).filter _), fun id => ?_⟩
    simp only [hdraft.stuck_iff, Text.mem_sortTexts, List.mem_filter, Bool.not_eq_true',
      ← Bool.not_eq_true, List.contains_iff_mem]
  · intro hacyclic
    have hlen := hdraft.complete_iff.2 hacyclic
    exact ⟨draft all, hdraft.ordered hlen, by rw [build_eq distinct known, if_pos hlen]⟩
  · intro g h
    exact (build_spec h).drafted.ordered (build_spec h).complete

/-- A stage that needs these others. -/
def stageNeeding (name : String) (needs : List String) : Instance :=
  { template := { name, needs } }

/-- Building and testing need each other, shipping needs a test, and checking the style nothing. -/
def loopStages : List Instance :=
  [stageNeeding "test" ["build"], stageNeeding "ship" ["style", "test"], stageNeeding "style" [],
    stageNeeding "build" ["test"]]

/-- The two are stuck and shipping behind them, the style is not. -/
theorem the_loop_is_found_with_the_shipping_behind_it :
    (loopStages.map Instance.id).Nodup ∧
      (∀ i ∈ loopStages, ∀ need ∈ i.template.needs, ∃ j ∈ loopStages, j.name = need) ∧
      ∃ stuck, build loopStages = .error (.cycle stuck) ∧ stuck.Pairwise (· < ·) ∧
        "build" ∈ stuck ∧ "test" ∈ stuck ∧ "ship" ∈ stuck ∧ "style" ∉ stuck := by
  have distinct : (loopStages.map Instance.id).Nodup := by decide
  have known : ∀ i ∈ loopStages, ∀ need ∈ i.template.needs, ∃ j ∈ loopStages, j.name = need := by
    decide
  have htest : TransGen (Needs loopStages) "test" "test" :=
    .head (b := "build") (by decide) (.single (by decide))
  have hbuild : TransGen (Needs loopStages) "build" "build" :=
    .head (b := "test") (by decide) (.single (by decide))
  have hship : TransGen (Needs loopStages) "ship" "test" := .single (by decide)
  have hstyle : ¬ Graph.Stuck (Needs loopStages) "style" := by
    intro hstuck
    obtain ⟨d, ⟨a, ha, _, _, hid, _, hneed⟩, _⟩ := hstuck.exists_needs
    have hnone : ∀ a ∈ loopStages, a.id = "style" → a.template.needs = [] := by decide
    simp [hnone a ha hid] at hneed
  obtain ⟨hfound, hnamed, _⟩ := a_cycle_is_found_with_all_that_is_stuck_on_it distinct known
  obtain ⟨stuck, hbuilt⟩ := hfound.2 ⟨"test", htest⟩
  obtain ⟨hsorted, hmem⟩ := hnamed stuck hbuilt
  exact ⟨distinct, known, stuck, hbuilt, hsorted, (hmem _).2 (Or.inl hbuild),
    (hmem _).2 (Or.inl htest), (hmem _).2 (Or.inr ⟨"test", hship, htest⟩),
    fun hin => hstyle ((hmem _).1 hin)⟩

end StageGraph

end GatedPipeline
