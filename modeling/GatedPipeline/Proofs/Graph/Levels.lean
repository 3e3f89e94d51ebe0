-- The levels of a graph. An instance is in the level whose number is the length
-- of the longest chain of dependencies that ends at it, so each level depends
-- on earlier ones only, and all of them together are all instances.
import GatedPipeline.Proofs.Graph.Cycle
namespace GatedPipeline
open Relation

namespace Graph

/-! ## Chains -/

/-- A chain of so many dependencies ends at the item. -/
inductive Chain {α : Type} (needs : α → α → Prop) : ℕ → α → Prop
  | start (x : α) : Chain needs 0 x
  | step {n : ℕ} {x d : α} (hd : needs x d) (h : Chain needs n d) : Chain needs (n + 1) x

/-- The longest chain of dependencies that ends at the item has so many. -/
def Depth {α : Type} (needs : α → α → Prop) (n : ℕ) (x : α) : Prop :=
  Chain needs n x ∧ ∀ m, Chain needs m x → m ≤ n

section Depth

variable {α : Type} {needs : α → α → Prop} {x d : α} {m n : ℕ}

theorem Depth.unique (hm : Depth needs m x) (hn : Depth needs n x) : m = n :=
  Nat.le_antisymm (hn.2 m hm.1) (hm.2 n hn.1)

theorem depth_zero (h : ∀ d, ¬ needs x d) : Depth needs 0 x := by
  refine ⟨.start x, fun m hm => ?_⟩
  cases hm with
  | start => exact Nat.le_refl 0
  | step hd _ => exact absurd hd (h _)

/-- One more than the deepest of what it needs. -/
theorem depth_succ (hall : ∀ d, needs x d → ∃ m ≤ n, Depth needs m d)
    (hone : ∃ d, needs x d ∧ Depth needs n d) : Depth needs (n + 1) x := by
  obtain ⟨d, hd, hdepth⟩ := hone
  refine ⟨.step hd hdepth.1, fun m hm => ?_⟩
  cases hm with
  | start => exact Nat.zero_le _
  | step hd hchain =>
    obtain ⟨k, hk, hmost⟩ := hall _ hd
    exact Nat.succ_le_succ (Nat.le_trans (hmost.2 _ hchain) hk)

theorem Chain.lengthen (h : Chain needs m d) (hxd : TransGen needs x d) :
    ∃ k, m < k ∧ Chain needs k x := by
  induction hxd using TransGen.head_induction_on with
  | single hd => exact ⟨m + 1, Nat.lt_succ_self m, .step hd h⟩
  | head hd _ ih =>
    obtain ⟨k, hk, hchain⟩ := ih
    exact ⟨k + 1, Nat.lt_succ_of_lt hk, .step hd hchain⟩

theorem Depth.lt_of_transGen (hd : Depth needs m d) (hx : Depth needs n x)
    (h : TransGen needs x d) : m < n := by
  obtain ⟨k, hk, hchain⟩ := hd.1.lengthen h
  exact Nat.lt_of_lt_of_le hk (hx.2 k hchain)

end Depth

/-! ## One level after the other -/

variable {deps : String → List String}

/-- When the nodes of a level have come, what they set free depends on them and on what was there
before only, and what still waits, waits for something else. -/
theorem foldl_letIn (level : List String) (next : List String × List Waiting) (come : List String)
    (hwait : Blocked deps come next.2) :
    ∃ more, (level.foldl letIn next).1 = next.1 ++ more ∧
      (more ++ (level.foldl letIn next).2.map (·.1)).Perm (next.2.map (·.1)) ∧
      (∀ x ∈ more, ∀ d ∈ deps x, d ∈ come ++ level) ∧
      Blocked deps (come ++ level) (level.foldl letIn next).2 := by
  induction level generalizing next come with
  | nil => exact ⟨[], by simp, by simp, by simp, by simpa using hwait⟩
  | cons node level ih =>
    obtain ⟨hfree, hrest⟩ := @blocked_withNode deps come node next.2 hwait
    obtain ⟨more, he, hperm, hmore, hleft⟩ := ih (letIn next node) (come ++ [node]) hrest
    rw [List.append_assoc, List.singleton_append] at hmore hleft
    rw [List.foldl_cons]
    refine ⟨(withNode node next.2).1 ++ more, ?_, ?_, fun x hx d hd => ?_, hleft⟩
    · rw [he, letIn, List.append_assoc]
    · rw [List.append_assoc]
      exact (hperm.append_left _).trans (perm_withNode node next.2)
    · rcases List.mem_append.1 hx with hx | hx
      · have hcome := hfree x hx d hd
        rw [← List.singleton_append, ← List.append_assoc]
        exact List.mem_append_left _ hcome
      · exact hmore x hx d hd

/-- The levels so far, the present one with its number, and what waits: what has come is less deep
than the level, and what waits depends on something that has not come. -/
structure Reached (deps : String → List String) (come : List String) (n : ℕ) (level : List String)
    (waiting : List Waiting) : Prop where
  earlier : ∀ x ∈ come, ∃ m < n, Depth (fun i d => d ∈ deps i) m x
  present : ∀ x ∈ level, Depth (fun i d => d ∈ deps i) n x
  blocked : Blocked deps come waiting

/-- The next level is one deeper: what it has waited for the present one. -/
theorem Reached.next {come level : List String} {n : ℕ} {waiting : List Waiting}
    (h : Reached deps come n level waiting) :
    ((nextLevel level waiting).1 ++ (nextLevel level waiting).2.map (·.1)).Perm
        (waiting.map (·.1)) ∧
      Reached deps (come ++ level) (n + 1) (nextLevel level waiting).1
        (nextLevel level waiting).2 := by
  obtain ⟨more, he, hperm, hmore, hblocked⟩ := foldl_letIn level ([], waiting) come h.blocked
  rw [List.nil_append] at he
  rw [← he] at hperm hmore
  have hcome : ∀ x ∈ come ++ level, ∃ m ≤ n, Depth (fun i d => d ∈ deps i) m x := by
    intro x hx
    rcases List.mem_append.1 hx with hx | hx
    · obtain ⟨m, hm, hdepth⟩ := h.earlier x hx
      exact ⟨m, Nat.le_of_lt hm, hdepth⟩
    · exact ⟨n, Nat.le_refl n, h.present x hx⟩
  refine ⟨hperm, fun x hx => ?_, fun x hx => ?_, hblocked⟩
  · obtain ⟨m, hm, hdepth⟩ := hcome x hx
    exact ⟨m, Nat.lt_succ_of_le hm, hdepth⟩
  · refine depth_succ (fun d hd => hcome d (hmore x hx d hd)) ?_
    obtain ⟨d, hd, hnot⟩ := h.blocked.exists_missing
      (hperm.mem_iff.1 (List.mem_append_left _ hx))
    have hin : d ∈ level := (List.mem_append.1 (hmore x hx d hd)).resolve_left hnot
    exact ⟨d, hd, h.present d hin⟩

/-- From a level on each one has the items of its depth, and what is left over at the end depends
on something that is left over too. -/
theorem Reached.levelsFrom {come level : List String} {n : ℕ} {waiting : List Waiting}
    (h : Reached deps come n level waiting) :
    (∀ k l, (levelsFrom waiting level)[k]? = some l →
      l ≠ [] ∧ ∀ x ∈ l, Depth (fun i d => d ∈ deps i) (n + k) x) ∧
    ∃ left, ((levelsFrom waiting level).flatten ++ left).Perm (level ++ waiting.map (·.1)) ∧
      ∀ x ∈ left, ∃ d ∈ deps x, d ∉ come ++ (levelsFrom waiting level).flatten := by
  fun_induction Graph.levelsFrom waiting level generalizing come n with
  | case1 waiting level hempty =>
    have hnil : level = [] := List.isEmpty_iff.1 hempty
    subst hnil
    refine ⟨by simp, waiting.map (·.1), by simp, fun x hx => ?_⟩
    simpa using h.blocked.exists_missing hx
  | case2 waiting level hne next =>
    rename_i ih
    obtain ⟨hperm, hnext⟩ := h.next
    obtain ⟨hlevels, left, hall, hleft⟩ := ih hnext
    refine ⟨fun k l hk => ?_, left, ?_, ?_⟩
    · rcases k with _ | k
      · cases hk
        exact ⟨fun hnil => hne (List.isEmpty_iff.2 hnil), h.present⟩
      · obtain ⟨hl, hdepth⟩ := hlevels k l (by simpa using hk)
        exact ⟨hl, by simpa only [Nat.add_assoc, Nat.add_comm 1] using hdepth⟩
    · rw [List.flatten_cons, List.append_assoc]
      exact (hall.trans hperm).append_left level
    · simpa only [List.flatten_cons, List.append_assoc] using hleft

/-- The levels of a sorted order have each of its items once, each in the level of its depth. -/
theorem Sorted.levels {order : List String} (h : Sorted deps order) :
    (levels deps order).flatten.Perm order ∧
      ∀ n l, (Graph.levels deps order)[n]? = some l →
        l ≠ [] ∧ ∀ x ∈ l, Depth (fun i d => d ∈ deps i) n x := by
  obtain ⟨hfree, hblocked⟩ := blocked_atStart deps order
  have hstart : Reached deps [] 0 (atStart deps order).1 (atStart deps order).2 :=
    ⟨by simp, fun x hx => depth_zero fun d hd => by simpa using hfree x hx d hd, hblocked⟩
  obtain ⟨hlevels, left, hperm, hleft⟩ := hstart.levelsFrom
  have hall : ((Graph.levels deps order).flatten ++ left).Perm order :=
    hperm.trans (perm_atStart deps order)
  have hnone : left = [] := by
    refine List.eq_nil_iff_forall_not_mem.2 fun x hx => ?_
    have hstuck := stuck_of_left hall (fun _ hy _ => h.mem_of_mem hy) hleft x hx
    exact h.not_stuck x (hall.mem_iff.1 (List.mem_append_right _ hx)) hstuck
  refine ⟨by simpa [hnone] using hall, fun n l hl => ?_⟩
  simpa using hlevels n l hl

end Graph

namespace StageGraph

/-! ## The levels of an accepted graph -/

/-- The levels of an accepted graph have each instance once, and an instance is in the level whose
number is the length of the longest chain of dependencies that ends at it. So no level is empty,
and of the instances of one level none depends on another, directly or through others. -/
theorem an_instance_is_in_the_level_of_its_longest_chain {all : List Instance} {g : StageGraph}
    (h : build all = .ok g) :
    (g.levels.flatten.Perm (all.map Instance.id) ∧ g.levels.flatten.Nodup) ∧
      (∀ n id, (∃ level, g.levels[n]? = some level ∧ id ∈ level) ↔
        id ∈ all.map Instance.id ∧ Graph.Depth (Needs all) n id) ∧
      ∀ level ∈ g.levels, level ≠ [] ∧ ∀ i ∈ level, ∀ d ∈ level, ¬ TransGen (Needs all) i d := by
  have hbuilt := build_spec h
  have hsound := hbuilt.sound
  obtain ⟨hperm, hlevels⟩ := hsound.sorted.levels
  rw [hbuilt.drafted.needs_eq] at hlevels
  change g.levels.flatten.Perm g.order at hperm
  have hall : g.levels.flatten.Perm (all.map Instance.id) :=
    hbuilt.ids ▸ hperm.trans hsound.order_perm
  refine ⟨⟨hall, hall.nodup_iff.2 hbuilt.distinct⟩, fun n id => ⟨?_, ?_⟩, fun level hlevel => ?_⟩
  · rintro ⟨level, hn, hid⟩
    exact ⟨hall.mem_iff.1 (List.mem_flatten.2 ⟨level, List.mem_of_getElem? hn, hid⟩),
      (hlevels n level hn).2 id hid⟩
  · rintro ⟨hid, hdepth⟩
    obtain ⟨level, hlevel, hin⟩ := List.mem_flatten.1 (hall.mem_iff.2 hid)
    obtain ⟨m, hm⟩ := List.mem_iff_getElem?.1 hlevel
    have hsame : m = n := ((hlevels m level hm).2 id hin).unique hdepth
    exact ⟨level, hsame ▸ hm, hin⟩
  · obtain ⟨n, hn⟩ := List.mem_iff_getElem?.1 hlevel
    obtain ⟨hne, hdepth⟩ := hlevels n level hn
    exact ⟨hne, fun i hi d hd hneeds =>
      Nat.lt_irrefl n ((hdepth d hd).lt_of_transGen (hdepth i hi) hneeds)⟩

/-- Two ways from the plan to the release, one longer than the other, and a need that skips both. -/
def forkStages : List Instance :=
  [stageNeeding "release" ["plan", "lint", "test"], stageNeeding "test" ["build"],
    stageNeeding "plan" [], stageNeeding "build" ["plan"], stageNeeding "lint" ["plan"]]

/-- The release is as deep as the longer way to it, and by itself. -/
theorem the_release_is_in_the_level_of_the_longer_way :
    ∃ g, build forkStages = .ok g ∧
      g.levels = [["plan"], ["build", "lint"], ["test"], ["release"]] ∧
      Graph.Depth (Needs forkStages) 3 "release" ∧ Graph.Depth (Needs forkStages) 1 "lint" ∧
      ¬ TransGen (Needs forkStages) "build" "lint" := by
  have hlevels : (build forkStages).toOption.map levels =
      some [["plan"], ["build", "lint"], ["test"], ["release"]] := by decide +kernel
  obtain ⟨g, hg, hlevels⟩ := Option.map_eq_some_iff.1 hlevels
  have hbuild : build forkStages = .ok g := by
    cases hb : build forkStages with
    | error fault => simp [hb, Except.toOption] at hg
    | ok g' => simpa [hb, Except.toOption] using hg
  obtain ⟨_, hdepth, hapart⟩ := an_instance_is_in_the_level_of_its_longest_chain hbuild
  rw [hlevels] at hdepth hapart
  exact ⟨g, hbuild, hlevels, ((hdepth 3 "release").1 ⟨["release"], rfl, by simp⟩).2,
    ((hdepth 1 "lint").1 ⟨["build", "lint"], rfl, by simp⟩).2,
    (hapart ["build", "lint"] (by simp)).2 "build" (by simp) "lint" (by simp)⟩

end StageGraph

end GatedPipeline
