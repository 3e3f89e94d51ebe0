-- The bodies of one stage in a run. No two of them have the same coordinates,
-- unless an added row of the matrix names a combination of the product with its
-- dimensions in another order: then the body runs once for each of the two.
import GatedPipeline.Proofs.Graph.Inputs
import GatedPipeline.Proofs.Run.Lifecycle
import GatedPipeline.Proofs.Stage.Coordinates
import Mathlib.Data.List.Pairwise
namespace GatedPipeline.Scheduler
open Coordinates

variable {m : MatrixSpec} {cs : List Coordinates} {ts : List StageTemplate} {t : StageTemplate}
  {a b : Instance}

/-- The instances of one stage with one mapping are its combinations that come again. -/
theorem reorders_of_instances {all : List Instance} (hk : m.Keyed) (hv : m.Varied)
    (hcs : m.combinations = .ok cs) (hall : expandAll ts = .ok all) (ht : t ∈ ts)
    (hm : t.matrix = some m) (ha : a ∈ all) (hb : b ∈ all) (hat : a.template = t)
    (hbt : b.template = t) (hne : a ≠ b) (hsame : SameMapping a.coordinates b.coordinates) :
    m.Reorders a.coordinates b.coordinates ∨ m.Reorders b.coordinates a.coordinates := by
  obtain ⟨is, hone⟩ := (expandAll_spec hall).1 t ht
  have hais := (mem_expand_iff hall ht hone).2 ⟨ha, hat⟩
  have hbis := (mem_expand_iff hall ht hone).2 ⟨hb, hbt⟩
  obtain ⟨cs', rfl, hcs'⟩ := t.expand_cases hone
  obtain ⟨x, hx, rfl⟩ := List.mem_map.1 hais
  obtain ⟨y, hy, rfl⟩ := List.mem_map.1 hbis
  have hxy : x ≠ y := fun he => hne (he ▸ rfl)
  rcases hcs' with ⟨m', hm', _, hcs'⟩ | ⟨_, rfl⟩
  · rw [hm, Option.some.injEq] at hm'
    subst hm'
    rw [hcs, Except.ok.injEq] at hcs'
    subst hcs'
    -- one of the two comes first
    have hpairs : cs.Pairwise fun a b => SameMapping a b → m.Reorders a b ∨ m.Reorders b a :=
      (MatrixSpec.pairwise_combinations hk hv hcs).imp fun hab hsame => Or.inl (hab hsame)
    have : Std.Symm fun a b => SameMapping a b → m.Reorders a b ∨ m.Reorders b a :=
      ⟨fun a b hab hsame => (hab hsame.symm).symm⟩
    exact hpairs.forall hx hy hxy hsame
  · simp only [List.mem_singleton] at hx hy
    exact absurd (hx.trans hy.symm) hxy

/-- Take a matrix that names each dimension once in its dimensions and in each row, with no value of
a dimension and no row written twice. Of two of its combinations that give every dimension the same
value, the later one is an added row that names the earlier one in another order; so there are none
just if there is no such row. And in every run, two bodies of a stage with that matrix are started
for the same coordinates only if they are such a combination and such a row. -/
theorem a_combination_comes_again_only_as_a_row_in_another_order (hk : m.Keyed) (hv : m.Varied)
    (h : m.combinations = .ok cs) :
    cs.Pairwise (fun a b => SameMapping a b → m.Reorders a b) ∧
    (cs.Pairwise (fun a b => ¬ SameMapping a b) ↔ ¬ ∃ a b, m.Reorders a b) ∧
    ∀ (ts : List StageTemplate) (t : StageTemplate) (s₀ s : Scheduler), t ∈ ts →
      t.matrix = some m → StageGraph.ofTemplates ts = .ok s₀.graph → Poised s₀ → Leads s₀ s →
      s.started.Pairwise fun i j => ∀ a b, s₀.graph.instance? i = some a →
        s₀.graph.instance? j = some b → a.template = t → b.template = t →
        SameMapping a.coordinates b.coordinates →
        m.Reorders a.coordinates b.coordinates ∨ m.Reorders b.coordinates a.coordinates := by
  refine ⟨MatrixSpec.pairwise_combinations hk hv h, MatrixSpec.pairwise_combinations_iff hk hv h,
    ?_⟩
  intro ts t s₀ s ht hm hplan h₀ hlead
  rcases hall : expandAll ts with fault | all
  · simp [StageGraph.ofTemplates, hall] at hplan
  · have hbuild : StageGraph.build all = .ok s₀.graph := by
      simpa [StageGraph.ofTemplates, hall] using hplan
    have hbuilt := StageGraph.build_spec hbuild
    refine (hlead.told h₀).nodup.imp fun hij => ?_
    intro a b ha hb hat hbt hsame
    obtain ⟨hain, haid⟩ := hbuilt.instance?_iff.1 ha
    obtain ⟨hbin, hbid⟩ := hbuilt.instance?_iff.1 hb
    have hne : a ≠ b := by
      rintro rfl
      exact hij (haid.symm.trans hbid)
    exact reorders_of_instances hk hv h hall ht hm hain hbin hat hbt hne hsame

/-! ## A test that runs twice -/

/-- One system and one version, and a row that has the two the other way round. -/
def againMatrix : MatrixSpec where
  dimensions := [("os", [.text "linux"]), ("py", [.text "3.12"])]
  includes := [[("py", .text "3.12"), ("os", .text "linux")]]

def againStage : StageTemplate := { name := "test", matrix := some againMatrix }

/-- The test of the product, and that of the row. -/
def firstTest : Instance :=
  { template := againStage, coordinates := [("os", "linux"), ("py", "3.12")] }

def secondTest : Instance :=
  { template := againStage, coordinates := [("py", "3.12"), ("os", "linux")] }

def againGraph : StageGraph := (StageGraph.ofTemplates [againStage]).toOption.getD default

/-- A run of the tests. -/
def againStart : Scheduler where
  run := Run.new "r1" {} "tests" againGraph 0
  now := 0
  self := 0

theorem plan_againStage : StageGraph.ofTemplates [againStage] = .ok againGraph :=
  StageGraph.ok_getD_of_isSome (by decide +kernel)

theorem fresh_againStart : Fresh againStart :=
  Orchestrator.fresh_new (StageGraph.build_of_ofTemplates plan_againStage) againStart rfl

theorem keyed_againMatrix : againMatrix.Keyed := ⟨by decide, by decide⟩

theorem varied_againMatrix : againMatrix.Varied := ⟨by decide, List.pairwise_singleton _ _⟩

theorem combinations_againMatrix :
    againMatrix.combinations = .ok [firstTest.coordinates, secondTest.coordinates] := by decide

theorem same_tests : SameMapping firstTest.coordinates secondTest.coordinates :=
  .of_perm (by decide) (by decide)

theorem instances_againGraph : againGraph.instance? firstTest.id = some firstTest ∧
    againGraph.instance? secondTest.id = some secondTest := by
  have hbuild : StageGraph.build [firstTest, secondTest] = .ok againGraph := plan_againStage
  have hbuilt := StageGraph.build_spec hbuild
  exact ⟨hbuilt.instance?_iff.2 ⟨by simp, rfl⟩, hbuilt.instance?_iff.2 ⟨by simp, rfl⟩⟩

theorem started_againStart :
    againStart.begin.started = [firstTest.id, secondTest.id] := by decide +kernel

/-- The run starts two tests with the same coordinates, and the second one is the row. -/
theorem the_second_test_has_the_coordinates_in_another_order :
    againMatrix.Keyed ∧ againMatrix.Varied ∧
      againMatrix.combinations = .ok [firstTest.coordinates, secondTest.coordinates] ∧
      Fresh againStart ∧ Leads againStart againStart.begin ∧
      againStart.begin.started = [firstTest.id, secondTest.id] ∧
      againMatrix.Reorders firstTest.coordinates secondTest.coordinates := by
  obtain ⟨_, _, hruns⟩ := a_combination_comes_again_only_as_a_row_in_another_order
    keyed_againMatrix varied_againMatrix combinations_againMatrix
  have hpair := hruns [againStage] againStage againStart againStart.begin (by simp) rfl
    plan_againStage fresh_againStart.toPoised (leads_begin _)
  rw [started_againStart] at hpair
  have hrow : secondTest.coordinates ∉ againMatrix.remaining := by decide
  have hreorders := List.rel_of_pairwise_cons hpair (List.mem_singleton_self _) firstTest
    secondTest instances_againGraph.1 instances_againGraph.2 rfl rfl same_tests
  exact ⟨keyed_againMatrix, varied_againMatrix, combinations_againMatrix, fresh_againStart,
    leads_begin _, started_againStart, hreorders.resolve_right fun h => hrow h.1⟩

/-- So not every matrix has each combination once: the test runs twice for the same coordinates. -/
theorem the_test_runs_twice_for_the_same_coordinates :
    (¬ ∀ (m : MatrixSpec) (cs : List Coordinates), m.Keyed → m.Varied → m.combinations = .ok cs →
      cs.Pairwise fun a b => ¬ SameMapping a b) ∧
    Fresh againStart ∧ Leads againStart againStart.begin ∧
      againStart.begin.started = [firstTest.id, secondTest.id] ∧
      SameMapping firstTest.coordinates secondTest.coordinates := by
  refine ⟨fun hall => ?_, fresh_againStart, leads_begin _, started_againStart, same_tests⟩
  have hpairs := hall againMatrix _ keyed_againMatrix varied_againMatrix combinations_againMatrix
  exact List.rel_of_pairwise_cons hpairs (List.mem_singleton_self _) same_tests

end GatedPipeline.Scheduler
