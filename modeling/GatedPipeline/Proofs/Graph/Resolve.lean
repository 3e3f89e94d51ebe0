-- What references to a stage mean. They are resolved among the ancestors of
-- an instance, which are the instances that it depends on, each of them once;
-- and the identity of a producer, with a key, always means its output.
import GatedPipeline.Proofs.Graph.Cycle
import GatedPipeline.Proofs.Graph.Reference
import GatedPipeline.Proofs.Stage.Coordinates
namespace GatedPipeline.StageGraph
open Relation OutputRef Coordinates

variable {all : List Instance} {g : StageGraph} {consumer p : Instance} {ref : OutputRef}
  {id name key : String}

/-! ## The ancestors of an instance -/

/-- The entries of the table of ancestors are parts of the order. -/
theorem sublist_of_mem_ancestorsAlong {deps : String → List String} {order : List String} :
    ∀ e ∈ ancestorsAlong deps order, e.2.Sublist order := by
  refine ancestorsAlong_induction (P := fun table => ∀ e ∈ table, e.2.Sublist order)
    (by simp) fun table i h e he => ?_
  rcases List.mem_append.1 he with he | he
  · exact h e he
  · rw [List.mem_singleton.1 he]
    exact List.filter_sublist

theorem Drafted.instance?_iff (h : Drafted all g) :
    g.instance? id = some p ↔ p ∈ all ∧ p.id = id := instance?_of_named h.distinct h.byId

theorem Drafted.nodup_order (h : Drafted all g) : g.order.Nodup := by
  obtain ⟨left, hperm, _⟩ := Graph.topologicalOrder_left g.dependencies g.ids
  have hids : g.ids.Nodup := h.ids ▸ h.distinct
  rw [h.order]
  exact (hperm.nodup_iff.2 hids).of_append_left

/-- No ancestor is listed twice. -/
theorem Drafted.nodup_ancestorInstances (h : Drafted all g) :
    (g.ancestorInstances id).Nodup := by
  refine List.Nodup.filterMap ?_ ?_
  · intro a b i ha hb
    exact (h.instance?_iff.1 ha).2.symm.trans (h.instance?_iff.1 hb).2
  · rcases hrow : getPair? id g.ancestors with _ | as
    · simp [ancestorsOf, hrow]
    · have hsub := sublist_of_mem_ancestorsAlong _ (h.ancestors ▸ mem_of_getPair? hrow)
      simpa [ancestorsOf, hrow] using h.nodup_order.sublist hsub

theorem Drafted.mem_ancestorsOf (h : Drafted all g) (hlen : g.order.length = g.ids.length)
    {a : String} : a ∈ g.ancestorsOf id ↔ TransGen (Needs all) id a := by
  constructor
  · intro ha
    rw [ancestorsOf, h.ancestors] at ha
    exact h.needs_eq ▸ transGen_of_mem_ancestorsAlong ha
  · intro ha
    have hdesc : id ∈ g.descendants a := (h.ordered hlen).descendants.2 ha
    exact List.contains_iff_mem.1 (List.mem_filter.1 hdesc).2

/-- The ancestors are the instances that it depends on, directly or through others. -/
theorem Drafted.mem_ancestorInstances (h : Drafted all g)
    (hlen : g.order.length = g.ids.length) :
    p ∈ g.ancestorInstances id ↔ p ∈ all ∧ TransGen (Needs all) id p.id := by
  rw [← h.mem_ancestorsOf hlen, ancestorInstances, List.mem_filterMap]
  constructor
  · rintro ⟨a, ha, hp⟩
    obtain ⟨hin, rfl⟩ := h.instance?_iff.1 hp
    exact ⟨hin, ha⟩
  · rintro ⟨hin, ha⟩
    exact ⟨p.id, ha, h.instance?_iff.2 ⟨hin, rfl⟩⟩

/-! ## References to a stage -/

/-- A reference that only one ancestor fits means its output. -/
theorem resolve_of_only (hstage : ref.stage = some name) (hname : name ≠ runScope)
    (hnodup : (g.ancestorInstances consumer.id).Nodup) (hp : p ∈ g.ancestorInstances consumer.id)
    (honly : ∀ q ∈ g.ancestorInstances consumer.id, isCandidate consumer ref q = true ↔ q = p) :
    g.resolve consumer ref = .ok ⟨p.id, ref.key⟩ := by
  have hone : (g.ancestorInstances consumer.id).filter (isCandidate consumer ref) = [p] := by
    refine List.perm_singleton.1 ((List.perm_ext_iff_of_nodup (hnodup.filter _)
      (List.nodup_singleton p)).2 fun q => ?_)
    rw [List.mem_filter, List.mem_singleton]
    exact ⟨fun ⟨hq, hcand⟩ => (honly q hq).1 hcand, fun he => he ▸ ⟨hp, (honly p hp).2 rfl⟩⟩
  simp [resolve, hstage, hname, hone]

/-- One that none fits is refused, with the names of the ancestors. -/
theorem resolve_of_none (hstage : ref.stage = some name) (hname : name ≠ runScope)
    (hnone : ∀ q ∈ g.ancestorInstances consumer.id, isCandidate consumer ref q = false) :
    g.resolve consumer ref = .error (.unknownDependency consumer.id ref.raw
      (Text.sortedSet ((g.ancestorInstances consumer.id).map (·.name)))) := by
  have hnil : (g.ancestorInstances consumer.id).filter (isCandidate consumer ref) = [] := by
    refine List.filter_eq_nil_iff.2 fun q hq => ?_
    simp [hnone q hq]
  simp [resolve, hstage, hname, hnil]

/-- What a text means that is written as a reference. -/
theorem meaning_of_parse? {raw : String} (h : parse? raw = some ref) :
    g.meaning consumer raw = g.resolve consumer ref := by
  simp [meaning, parseRef, h, bind, Except.bind]

/-! ## Naming a producer -/

/-- The instances of the name have the same dimensions, and any two of them differ in a value. -/
structure ToldApart (all : List Instance) (name : String) : Prop where
  dimensions : ∀ p ∈ all, ∀ q ∈ all, p.name = name → q.name = name →
    ∀ d, d ∈ p.coordinates.map (·.1) ↔ d ∈ q.coordinates.map (·.1)
  values : ∀ p ∈ all, ∀ q ∈ all, p.name = name → q.name = name →
    SameMapping p.coordinates q.coordinates → p = q

/-- The name, the coordinates and a key of an instance fit no other one of the name. -/
theorem isCandidate_own_iff (hkeys : (p.coordinates.map (·.1)).Nodup)
    (hout : key ∈ p.template.outputs) (hp : p ∈ all) (hapart : ToldApart all p.name) {raw : String}
    {q : Instance} (hq : q ∈ all) :
    isCandidate consumer { raw, stage := some p.name, qualifiers := p.coordinates, key } q = true ↔
      q = p := by
  constructor
  · intro hcand
    simp only [isCandidate, Option.all_some, Bool.and_eq_true, beq_iff_eq,
      List.all_eq_true] at hcand
    obtain ⟨⟨⟨hname, _⟩, hagree⟩, _⟩ := hcand
    -- with the same dimensions, the one that has all its coordinates has its mapping
    have hsame := SameMapping.of_agree (hapart.dimensions p hp q hq rfl hname.symm) hagree
    exact (hapart.values p hp q hq rfl hname.symm hsame).symm
  · rintro rfl
    have hagree : ∀ d ∈ q.coordinates, q.coordinates.lookup d.1 = some d.2 :=
      fun d hd => (lookup_eq_some_iff hkeys).2 hd
    have hcompatible : (!q.coordinates.isEmpty || compatible consumer q) = true := by
      rcases hnil : q.coordinates with _ | _ <;> simp [compatible, hnil]
    simp only [isCandidate, Option.all_some, Bool.and_eq_true, beq_iff_eq, List.all_eq_true,
      List.contains_iff_mem]
    exact ⟨⟨⟨trivial, hout⟩, hagree⟩, hcompatible⟩

/-- The identity of an instance and a key, with a dot between, are read as the name of the instance,
its coordinates and the key. Let its coordinates be a mapping, as those that a stage expands to are
(`nodup_keys_of_mem_expandAll`), let its stage declare the key and not be called as the run is, and
let the instances of its name have the same dimensions and differ in their values. Then in every
accepted graph that text means, for each instance that depends on it, directly or through others,
the output of this very instance. -/
theorem a_producer_is_named_by_its_identity (hn : IsKey p.name) (hk : IsKey key)
    (hc : p.coordinates.Writable) :
    parse? (p.id ++ "." ++ key) = some { raw := p.id ++ "." ++ key, stage := some p.name,
                                         qualifiers := p.coordinates, key } ∧
    ∀ (all : List Instance) (g : StageGraph) (consumer : Instance), build all = .ok g → p ∈ all →
      TransGen (Needs all) consumer.id p.id → p.name ≠ runScope → key ∈ p.template.outputs →
      (p.coordinates.map (·.1)).Nodup → ToldApart all p.name →
      g.meaning consumer (p.id ++ "." ++ key) = .ok ⟨p.id, key⟩ := by
  refine ⟨parse?_instanceId hn hk hc, ?_⟩
  intro all g consumer hbuild hp habove hrun hout hkeys hapart
  have hbuilt := build_spec hbuild
  have hmem : ∀ q, q ∈ g.ancestorInstances consumer.id ↔
      q ∈ all ∧ TransGen (Needs all) consumer.id q.id :=
    fun q => hbuilt.drafted.mem_ancestorInstances hbuilt.complete
  refine (meaning_of_parse? (parse?_instanceId hn hk hc)).trans ?_
  refine resolve_of_only rfl hrun hbuilt.drafted.nodup_ancestorInstances
    ((hmem p).2 ⟨hp, habove⟩) fun q hq => ?_
  exact isCandidate_own_iff hkeys hout hp hapart ((hmem q).1 hq).1

/-! ## Two builds -/

/-- A build with these flags. -/
def buildWith (flags : String) : Instance where
  template := { name := "build", outputs := ["image"] }
  coordinates := [("flags", flags), ("os", "linux 6.1")]

/-- A test of the image of the second build. -/
def imageTest : Instance where
  template := {
    name := "test", needs := ["build"]
    inputs := ["build[flags=-O2 -DCPU=x86.64,os=linux 6.1].image"] }

def buildStages : List Instance := [buildWith "-O0 -g", buildWith "-O2 -DCPU=x86.64", imageTest]

def buildGraph : StageGraph := (build buildStages).toOption.getD default

theorem build_buildStages : build buildStages = .ok buildGraph :=
  ok_getD_of_isSome (by decide +kernel)

/-- The builds differ in their flags. -/
theorem toldApart_buildStages : ToldApart buildStages "build" where
  dimensions := by
    have hdims : ∀ p ∈ buildStages, p.name = "build" →
        p.coordinates.map (·.1) = ["flags", "os"] := by
      decide
    intro p hp q hq hpn hqn d
    rw [hdims p hp hpn, hdims q hq hqn]
  values := by
    have hflags : ∀ p ∈ buildStages, ∀ q ∈ buildStages, p.name = "build" → q.name = "build" →
        p.coordinates.lookup "flags" = q.coordinates.lookup "flags" → p.id = q.id := by
      decide
    intro p hp q hq hpn hqn hsame
    exact List.inj_on_of_nodup_map (build_spec build_buildStages).distinct hp hq
      (hflags p hp q hq hpn hqn (hsame "flags"))

/-- The blank, the dot and the `=` in the flags of the second build are no obstacle. -/
theorem the_test_takes_the_image_of_the_second_build :
    build buildStages = .ok buildGraph ∧
      (parse? "build[flags=-O2 -DCPU=x86.64,os=linux 6.1].image").map (·.qualifiers) =
        some [("flags", "-O2 -DCPU=x86.64"), ("os", "linux 6.1")] ∧
      buildGraph.meaning imageTest "build[flags=-O2 -DCPU=x86.64,os=linux 6.1].image" =
        .ok ⟨"build[flags=-O2 -DCPU=x86.64,os=linux 6.1]", "image"⟩ := by
  have hid : (buildWith "-O2 -DCPU=x86.64").id = "build[flags=-O2 -DCPU=x86.64,os=linux 6.1]" := by
    decide
  have hneeds : Needs buildStages imageTest.id (buildWith "-O2 -DCPU=x86.64").id := by decide
  obtain ⟨hparse, hmeans⟩ := @a_producer_is_named_by_its_identity (buildWith "-O2 -DCPU=x86.64")
    "image" (by decide) (by decide) (by decide)
  have hmeans := hmeans buildStages buildGraph imageTest build_buildStages (by simp [buildStages])
    (.single hneeds) (by decide) (by decide) (by decide) toldApart_buildStages
  rw [hid] at hparse hmeans
  exact ⟨build_buildStages, congrArg (Option.map (·.qualifiers)) hparse, hmeans⟩

end GatedPipeline.StageGraph
