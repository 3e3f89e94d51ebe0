-- Orders in which every item comes after all that it depends on.
namespace GatedPipeline.Graph

/-! ## Waiting items -/

/-- An item, and what it still waits for. -/
abbrev Waiting := String × List String

/-- The items that wait for nothing, and the others. -/
def free (waiting : List Waiting) : List String × List Waiting :=
  let parts := waiting.partition (·.2.isEmpty)
  (parts.1.map (·.1), parts.2)

/-- The same at the start, when nothing has come. -/
def atStart (deps : String → List String) (ids : List String) : List String × List Waiting :=
  free (ids.map fun i => (i, deps i))

/-- The same once a node has come, for which nothing waits any longer. -/
def withNode (node : String) (waiting : List Waiting) : List String × List Waiting :=
  free (waiting.map fun (w, left) => (w, left.filter (· ≠ node)))

theorem length_partition {α : Type} (p : α → Bool) (xs : List α) :
    (xs.partition p).1.length + (xs.partition p).2.length = xs.length := by
  rw [List.partition_eq_filter_filter]
  induction xs with
  | nil => rfl
  | cons x xs ih =>
    by_cases h : p x <;> simp_all [Nat.add_right_comm, ← Nat.add_assoc]

theorem length_withNode (node : String) (waiting : List Waiting) :
    (withNode node waiting).1.length + (withNode node waiting).2.length = waiting.length := by
  simp only [withNode, free, List.length_map]
  rw [length_partition, List.length_map]

/-! ## Topological order -/

/-- Takes the next item from the queue, and lets in those that wait for nothing else. -/
def orderFrom (done : List String) (waiting : List Waiting) (queue : List String) : List String :=
  match queue with
  | [] => done
  | node :: rest =>
    let next := withNode node waiting
    orderFrom (done ++ [node]) next.2 (rest ++ next.1)
termination_by waiting.length + queue.length
decreasing_by
  have h := length_withNode node waiting
  simp only [List.length_cons, List.length_append]
  omega

/-- The items in an order in which each comes after all that it depends on: first those that
depend on nothing, then each as soon as the last of its dependencies has come. What is on a
cycle, or behind one, does not come. -/
def topologicalOrder (deps : String → List String) (ids : List String) : List String :=
  let start := atStart deps ids
  orderFrom [] start.2 start.1

/-! ## Levels -/

/-- One node of a level comes: what it sets free is let into the next level. -/
def letIn (next : List String × List Waiting) (node : String) : List String × List Waiting :=
  let more := withNode node next.2
  (next.1 ++ more.1, more.2)

/-- The level after this one, and what still waits. -/
def nextLevel (level : List String) (waiting : List Waiting) : List String × List Waiting :=
  level.foldl letIn ([], waiting)

theorem length_foldl_letIn (level : List String) (next : List String × List Waiting) :
    (level.foldl letIn next).1.length + (level.foldl letIn next).2.length =
      next.1.length + next.2.length := by
  induction level generalizing next with
  | nil => rfl
  | cons node level ih =>
    have h := length_withNode node next.2
    simp only [List.foldl_cons, ih, letIn, List.length_append]
    omega

theorem length_nextLevel (level : List String) (waiting : List Waiting) :
    (nextLevel level waiting).1.length + (nextLevel level waiting).2.length =
      waiting.length := by
  simp [nextLevel, length_foldl_letIn]

/-- The levels from this one on. -/
def levelsFrom (waiting : List Waiting) (level : List String) : List (List String) :=
  if level.isEmpty then []
  else
    let next := nextLevel level waiting
    level :: levelsFrom next.2 next.1
termination_by waiting.length + level.length
decreasing_by
  rename_i h
  have hn := length_nextLevel level waiting
  have hl : 0 < level.length := List.length_pos_iff.2 (by simpa using h)
  omega

/-- The items in levels. Those of one level wait only for earlier ones. -/
def levels (deps : String → List String) (order : List String) : List (List String) :=
  let start := atStart deps order
  levelsFrom start.2 start.1

end GatedPipeline.Graph
