-- Coordinates that match. A reference to a stage without coordinates of its own
-- means the instance that has the coordinates of the consumer, as far as the
-- stage has their dimensions; when its matrix has left that one out, it means
-- nothing, and never more than one.
import GatedPipeline.Proofs.Graph.Resolve
namespace GatedPipeline
open Coordinates

/-! ## Some of the dimensions -/

namespace Coordinates

variable {a c : Coordinates}

/-- The coordinates in these dimensions. -/
def restrictedTo (dims : List String) (c : Coordinates) : Coordinates :=
  dims.filterMap fun d => (c.lookup d).map fun v => (d, v)

/-- Coordinates are those of the other ones in their dimensions, if they agree with them in each. -/
theorem restrictedTo_keys_iff (h : ∀ d ∈ a.map (·.1), d ∈ c.map (·.1)) :
    c.restrictedTo (a.map (·.1)) = a ↔ ∀ q ∈ a, c.lookup q.1 = some q.2 := by
  induction a with
  | nil => simp [restrictedTo]
  | cons q a ih =>
    obtain ⟨hq, ha⟩ := List.forall_mem_cons.1 h
    obtain ⟨v, hv⟩ := exists_lookup_of_mem hq
    have hcons : c.restrictedTo ((q :: a).map (·.1)) =
        (q.1, v) :: c.restrictedTo (a.map (·.1)) := by
      simp [restrictedTo, hv]
    rw [hcons, List.forall_mem_cons, ← ih ha, List.cons.injEq, hv, Option.some.injEq]
    exact and_congr_left' ⟨fun he => by rw [← he], fun he => by rw [he]⟩

end Coordinates

/-- The dimensions of the matrix of a stage. -/
def StageTemplate.dimensionNames (t : StageTemplate) : List String :=
  match t.matrix with
  | none => []
  | some m => m.dimensions.map (·.1)

namespace Instance

/-- The instance has the coordinates of the consumer in the dimensions of its stage. -/
def Fits (p consumer : Instance) : Prop :=
  p.coordinates = consumer.coordinates.restrictedTo p.template.dimensionNames

instance (p consumer : Instance) : Decidable (p.Fits consumer) :=
  inferInstanceAs (Decidable (_ = _))

/-- A stage and coordinates are all that there is to an instance. -/
theorem eq_of_coordinates {p q : Instance} (ht : p.template = q.template)
    (hc : p.coordinates = q.coordinates) : p = q := by
  cases p
  cases q
  cases ht
  cases hc
  rfl

end Instance

/-- The instances of a stage without added rows have its dimensions, in their order. -/
theorem StageTemplate.keys_of_mem_expand {t : StageTemplate} {is : List Instance} {i : Instance}
    (hrows : ∀ m, t.matrix = some m → m.includes = []) (h : t.expand = .ok is) (hi : i ∈ is) :
    i.coordinates.map (·.1) = t.dimensionNames := by
  obtain ⟨cs, rfl, hcs⟩ := t.expand_cases h
  obtain ⟨c, hc, rfl⟩ := List.mem_map.1 hi
  rcases hcs with ⟨m, hm, _, hcs⟩ | ⟨hempty, rfl⟩
  · obtain ⟨_, _, rfl⟩ := MatrixSpec.combinations_eq_ok_iff.1 hcs
    rcases List.mem_append.1 hc with hc | hc
    · simpa [dimensionNames, hm] using MatrixSpec.keys_of_mem_remaining hc
    · obtain ⟨row, hrow, _⟩ := MatrixSpec.exists_row_of_mem_added hc
      rw [hrows m hm] at hrow
      cases hrow
  · obtain rfl := List.mem_singleton.1 hc
    rcases hm : t.matrix with _ | m
    · simp [dimensionNames, hm]
    · have hdims : m.dimensions = [] := by
        have hnone := hempty m hm
        simp only [MatrixSpec.nonempty, Bool.or_eq_false_iff, Bool.not_eq_false',
          List.isEmpty_iff] at hnone
        exact hnone.1
      simp [dimensionNames, hm, hdims]

namespace StageGraph
open Relation OutputRef

variable {ts : List StageTemplate} {t : StageTemplate} {all : List Instance} {g : StageGraph}
  {consumer p : Instance} {key : String}

/-- A producer whose dimensions the consumer has agrees with it just if it has the coordinates of the
consumer in them. -/
theorem compatible_iff (h : ∀ d ∈ p.coordinates.map (·.1), d ∈ consumer.coordinates.map (·.1)) :
    compatible consumer p = true ↔
      consumer.coordinates.restrictedTo (p.coordinates.map (·.1)) = p.coordinates := by
  rw [restrictedTo_keys_iff h, compatible, List.all_eq_true]
  refine forall₂_congr fun q hq => ?_
  obtain ⟨w, hw⟩ := exists_lookup_of_mem (h _ (List.mem_map_of_mem hq))
  simp [hw]

/-- Of all instances, a stage with a name of its own is meant by the one that fits. -/
theorem isCandidate_iff (hall : expandAll ts = .ok all) (ht : t ∈ ts)
    (hname : ∀ u ∈ ts, u.name = t.name → u = t) (hout : key ∈ t.outputs)
    (hrows : ∀ m, t.matrix = some m → m.includes = [])
    (hdims : ∀ d ∈ t.dimensionNames, d ∈ consumer.coordinates.map (·.1)) {raw : String}
    (hp : p ∈ all) :
    isCandidate consumer { raw, stage := some t.name, key } p = true ↔
      p.template = t ∧ p.Fits consumer := by
  obtain ⟨is, his⟩ := (expandAll_spec hall).1 t ht
  obtain ⟨u, hu, js, hjs, hpj⟩ := ((expandAll_spec hall).2 p).1 hp
  have hut : p.template = u := ((mem_expand_iff hall hu hjs).1 hpj).2
  have hstage : t.name = p.name ↔ p.template = t :=
    ⟨fun he => hut.trans (hname u hu (hut ▸ he.symm)), fun he => he ▸ rfl⟩
  have hcompatible : p.template = t → (compatible consumer p = true ↔ p.Fits consumer) := by
    rintro rfl
    have hkeys := StageTemplate.keys_of_mem_expand hrows his
      ((mem_expand_iff hall ht his).2 ⟨hp, rfl⟩)
    rw [compatible_iff (hkeys ▸ hdims), hkeys]
    exact eq_comm
  simp only [isCandidate, Option.all_some, Bool.and_eq_true, beq_iff_eq, List.all_nil,
    List.isEmpty_nil, Bool.not_true, Bool.false_or, hstage, List.contains_iff_mem, and_true]
  constructor
  · rintro ⟨⟨hpt, _⟩, hfits⟩
    exact ⟨hpt, (hcompatible hpt).1 hfits⟩
  · rintro ⟨hpt, hfits⟩
    exact ⟨⟨hpt, hpt ▸ hout⟩, (hcompatible hpt).2 hfits⟩

/-- Take a graph with a complete order, as building has it when it comes to resolve references. Take a
stage that has its name for itself, adds no rows to its matrix and declares a key, and an instance
that depends on all instances of the stage, directly or through others, and has all its dimensions.
Then the name and the key, with a dot between, mean something for the instance just if the stage has
one with the same coordinates in its dimensions, and they mean the output of that one. If there is
none, the reference is refused as naming nothing. -/
theorem a_stage_is_read_where_the_coordinates_match (hall : expandAll ts = .ok all)
    (hg : Drafted all g) (hlen : g.order.length = g.ids.length) (ht : t ∈ ts)
    (hname : ∀ u ∈ ts, u.name = t.name → u = t) (hn : IsKey t.name) (hk : IsKey key)
    (hrun : t.name ≠ runScope) (hout : key ∈ t.outputs)
    (habove : ∀ p ∈ all, p.template = t → TransGen (Needs all) consumer.id p.id)
    (hrows : ∀ m, t.matrix = some m → m.includes = [])
    (hdims : ∀ d ∈ t.dimensionNames, d ∈ consumer.coordinates.map (·.1)) :
    ((∃ source, g.meaning consumer (t.name ++ "." ++ key) = .ok source) ↔
      ∃ p ∈ all, p.template = t ∧ p.Fits consumer) ∧
    (∀ p ∈ all, p.template = t → p.Fits consumer →
      g.meaning consumer (t.name ++ "." ++ key) = .ok ⟨p.id, key⟩) ∧
    ((¬ ∃ p ∈ all, p.template = t ∧ p.Fits consumer) →
      g.meaning consumer (t.name ++ "." ++ key) =
        .error (.unknownDependency consumer.id (t.name ++ "." ++ key)
          (Text.sortedSet ((g.ancestorInstances consumer.id).map (·.name))))) := by
  have hmem : ∀ q, q ∈ g.ancestorInstances consumer.id ↔
      q ∈ all ∧ TransGen (Needs all) consumer.id q.id := fun q => hg.mem_ancestorInstances hlen
  have hcandidate : ∀ q ∈ g.ancestorInstances consumer.id,
      isCandidate consumer { raw := t.name ++ "." ++ key, stage := some t.name, key } q = true ↔
        q.template = t ∧ q.Fits consumer :=
    fun q hq => isCandidate_iff hall ht hname hout hrows hdims ((hmem q).1 hq).1
  rw [meaning_of_parse? (parse?_stage hn hk)]
  have hfound : ∀ p ∈ all, p.template = t → p.Fits consumer →
      g.resolve consumer { raw := t.name ++ "." ++ key, stage := some t.name, key } =
        .ok ⟨p.id, key⟩ := by
    rintro p hp rfl hfits
    refine resolve_of_only rfl hrun hg.nodup_ancestorInstances
      ((hmem p).2 ⟨hp, habove p hp rfl⟩) fun q hq => ?_
    rw [hcandidate q hq]
    -- the restricted coordinates are those of one instance of the stage only
    constructor
    · rintro ⟨hqt, hqfits⟩
      exact Instance.eq_of_coordinates hqt (hqfits.trans (hqt ▸ hfits.symm))
    · rintro rfl
      exact ⟨rfl, hfits⟩
  have hrefused : (¬ ∃ p ∈ all, p.template = t ∧ p.Fits consumer) →
      g.resolve consumer { raw := t.name ++ "." ++ key, stage := some t.name, key } =
        .error (.unknownDependency consumer.id (t.name ++ "." ++ key)
          (Text.sortedSet ((g.ancestorInstances consumer.id).map (·.name)))) := by
    intro hnone
    refine resolve_of_none rfl hrun fun q hq => ?_
    rw [← Bool.not_eq_true, hcandidate q hq]
    exact fun hfits => hnone ⟨q, ((hmem q).1 hq).1, hfits⟩
  refine ⟨⟨?_, fun ⟨p, hp, hpt, hfits⟩ => ⟨_, hfound p hp hpt hfits⟩⟩, hfound, hrefused⟩
  rintro ⟨source, hsource⟩
  by_contra hnone
  rw [hrefused hnone] at hsource
  cases hsource

/-! ## Tests of wheels -/

/-- A wheel for each system and version, but none of the old version for the mac. -/
def wheelStage : StageTemplate where
  name := "build"
  outputs := ["wheel"]
  matrix := some {
    dimensions := [("os", [.text "linux", .text "mac"]), ("py", [.text "3.11", .text "3.12"])]
    excludes := [[("os", .text "mac"), ("py", .text "3.11")]] }

/-- A test for each version and system, on a machine of its own. -/
def wheelTestStage : StageTemplate where
  name := "test"
  needs := ["build"]
  matrix := some {
    dimensions := [("arch", [.text "arm"]), ("py", [.text "3.11", .text "3.12"]),
      ("os", [.text "linux", .text "mac"])] }

def wheelBuild (os py : String) : Instance :=
  { template := wheelStage, coordinates := [("os", os), ("py", py)] }

def wheelTest (py os : String) : Instance :=
  { template := wheelTestStage, coordinates := [("arch", "arm"), ("py", py), ("os", os)] }

def wheelInstances : List Instance :=
  [wheelBuild "linux" "3.11", wheelBuild "linux" "3.12", wheelBuild "mac" "3.12",
    wheelTest "3.11" "linux", wheelTest "3.11" "mac", wheelTest "3.12" "linux",
    wheelTest "3.12" "mac"]

theorem expandAll_wheelStages :
    expandAll [wheelStage, wheelTestStage] = .ok wheelInstances := by
  rfl

/-- Every test depends on all wheels. -/
theorem needs_wheelTest {py os : String} (h : wheelTest py os ∈ wheelInstances) :
    ∀ p ∈ wheelInstances, p.template = wheelStage →
      TransGen (Needs wheelInstances) (wheelTest py os).id p.id := by
  intro p hp hpt
  have hneed : p.name ∈ wheelTestStage.needs := by
    rw [Instance.name, hpt]
    decide
  exact .single ⟨_, h, p, hp, rfl, rfl, hneed⟩

/-- One test reads the wheel with its version and its system, and the other one has none to read. -/
theorem the_old_version_has_no_wheel_for_the_mac :
    (draft wheelInstances).meaning (wheelTest "3.12" "mac") "build.wheel" =
        .ok ⟨"build[os=mac,py=3.12]", "wheel"⟩ ∧
      (draft wheelInstances).meaning (wheelTest "3.11" "mac") "build.wheel" =
        .error (.unknownDependency "test[arch=arm,py=3.11,os=mac]" "build.wheel" ["build"]) := by
  have distinct : (wheelInstances.map Instance.id).Nodup := by decide
  have hlen : (draft wheelInstances).order.length = (draft wheelInstances).ids.length := by
    decide +kernel
  have hname : ∀ u ∈ [wheelStage, wheelTestStage], u.name = wheelStage.name → u = wheelStage := by
    simp [wheelStage, wheelTestStage]
  have hk : IsKey "wheel" := by decide
  have hout : "wheel" ∈ wheelStage.outputs := by decide
  have hrows : ∀ m, wheelStage.matrix = some m → m.includes = [] := by
    rintro m ⟨⟩
    rfl
  have hlaw (py os : String) (h : wheelTest py os ∈ wheelInstances) :=
    a_stage_is_read_where_the_coordinates_match expandAll_wheelStages (drafted_draft distinct) hlen
      List.mem_cons_self hname (by decide) hk (by decide) hout (needs_wheelTest h) hrows
      (List.forall_mem_cons.2 ⟨by simp [wheelTest], by simp [wheelTest]⟩)
  obtain ⟨_, hfound, _⟩ := hlaw "3.12" "mac" (by simp [wheelInstances])
  obtain ⟨_, _, hrefused⟩ := hlaw "3.11" "mac" (by simp [wheelInstances])
  refine ⟨hfound (wheelBuild "mac" "3.12") (by simp [wheelInstances]) rfl rfl, ?_⟩
  have hnone : ∀ p ∈ wheelInstances, p.name = "build" → ¬ p.Fits (wheelTest "3.11" "mac") := by
    decide
  have hknown : Text.sortedSet (((draft wheelInstances).ancestorInstances
      (wheelTest "3.11" "mac").id).map (·.name)) = ["build"] := by
    decide +kernel
  rw [hknown] at hrefused
  exact hrefused fun ⟨p, hp, hpt, hfits⟩ => hnone p hp (by rw [Instance.name, hpt]; rfl) hfits

end StageGraph

end GatedPipeline
