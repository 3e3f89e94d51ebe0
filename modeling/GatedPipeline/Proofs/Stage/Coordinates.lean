-- Coordinates as mappings from dimensions to values. The order in which they
-- name the dimensions is no part of the mapping, but it is one of the
-- coordinates: so a combination can come again as a row in another order, and
-- in no other way.
import GatedPipeline.Stage.Basic
import GatedPipeline.Proofs.Pairs
import GatedPipeline.Proofs.Stage.Matrix
import Mathlib.Data.List.Perm.Basic
import Mathlib.Data.List.Nodup
namespace GatedPipeline

/-! ## Mappings -/

theorem lookup_eq_getPair? {β : Type} (k : String) (ps : List (String × β)) :
    ps.lookup k = getPair? k ps := by
  induction ps with
  | nil => rfl
  | cons p ps ih =>
    obtain ⟨k', v⟩ := p
    by_cases hk : k' = k
    · simp [getPair?, hk]
    · have hne : (k == k') = false := beq_eq_false_iff_ne.2 (Ne.symm hk)
      simp [List.lookup_cons, getPair?, hk, hne, ih]

namespace Coordinates

variable {a b c : Coordinates} {d v : String}

/-- The two give every dimension the same value, if any. -/
def SameMapping (a b : Coordinates) : Prop := ∀ d, a.lookup d = b.lookup d

theorem SameMapping.symm (h : SameMapping a b) : SameMapping b a := fun d => (h d).symm

theorem lookup_eq_some_iff (hc : (c.map (·.1)).Nodup) : c.lookup d = some v ↔ (d, v) ∈ c := by
  rw [lookup_eq_getPair?]
  exact ⟨mem_of_getPair?, getPair?_of_mem hc⟩

theorem lookup_eq_none_iff : c.lookup d = none ↔ d ∉ c.map (·.1) := by
  rw [lookup_eq_getPair?, getPair?_eq_none_iff]

theorem exists_lookup_of_mem (h : d ∈ c.map (·.1)) : ∃ v, c.lookup d = some v := by
  rw [lookup_eq_getPair?]
  exact exists_getPair?_of_key_mem h

/-- Coordinates that have all of the others, and no dimension besides, are one mapping with them. -/
theorem SameMapping.of_agree (hdims : ∀ d, d ∈ a.map (·.1) ↔ d ∈ b.map (·.1))
    (h : ∀ q ∈ a, b.lookup q.1 = some q.2) : SameMapping a b := by
  intro d
  rcases hd : a.lookup d with _ | v
  · rw [lookup_eq_none_iff, hdims] at hd
    exact (lookup_eq_none_iff.2 hd).symm
  · rw [lookup_eq_getPair?] at hd
    exact (h _ (mem_of_getPair? hd)).symm

/-- When they name each dimension once, they are the same but for the order. -/
theorem SameMapping.perm (ha : (a.map (·.1)).Nodup) (hb : (b.map (·.1)).Nodup)
    (h : SameMapping a b) : a.Perm b := by
  refine (List.perm_ext_iff_of_nodup (List.Nodup.of_map _ ha) (List.Nodup.of_map _ hb)).2 ?_
  rintro ⟨d, v⟩
  rw [← lookup_eq_some_iff ha, ← lookup_eq_some_iff hb, h d]

theorem SameMapping.of_perm (ha : (a.map (·.1)).Nodup) (h : a.Perm b) : SameMapping a b := by
  intro d
  refine Option.ext fun v => ?_
  rw [lookup_eq_some_iff ha, lookup_eq_some_iff ((h.map _).nodup_iff.1 ha), h.mem_iff]

/-- And with the dimensions in one order they are the same. -/
theorem SameMapping.eq (ha : (a.map (·.1)).Nodup) (hkeys : a.map (·.1) = b.map (·.1))
    (h : SameMapping a b) : a = b := by
  have hread : ∀ c : Coordinates, (c.map (·.1)).Nodup →
      c = (c.map (·.1)).map fun d => (d, (c.lookup d).getD "") := by
    intro c hc
    rw [List.map_map]
    refine (List.map_id c).symm.trans (List.map_congr_left fun p hp => ?_)
    have hvalue : c.lookup p.1 = some p.2 := (lookup_eq_some_iff hc).2 hp
    simp [hvalue]
  rw [hread a ha, hread b (hkeys ▸ ha), hkeys]
  exact List.map_congr_left fun d _ => by rw [h d]

end Coordinates

namespace MatrixSpec
open Coordinates

variable {m : MatrixSpec} {a b : Coordinates} {cs : List Coordinates}

/-! ## Combinations that come again -/

/-- The matrix names each dimension once, and so does each added row. -/
structure Keyed (m : MatrixSpec) : Prop where
  dimensions : (m.dimensions.map (·.1)).Nodup
  includes : ∀ row ∈ m.includes, (row.map (·.1)).Nodup

/-- No dimension has a value twice, and no added row repeats another one. -/
structure Varied (m : MatrixSpec) : Prop where
  values : ∀ d ∈ m.dimensions, (d.2.map Value.shown).Nodup
  rows : m.includes.Pairwise fun r r' => ¬ SameMapping (rowCoordinates r) (rowCoordinates r')

/-- The first combination remains of the product, and the second one is an added row that names the
same coordinates in another order. -/
def Reorders (m : MatrixSpec) (a b : Coordinates) : Prop :=
  a ∈ m.remaining ∧ (∃ row ∈ m.includes, rowCoordinates row = b) ∧ a.Perm b ∧ a ≠ b

theorem keys_rowCoordinates (row : List (String × Value)) :
    (rowCoordinates row).map (·.1) = row.map (·.1) := by
  simp [rowCoordinates, Function.comp_def]

theorem nodup_product {dims : List (String × List Value)}
    (h : ∀ d ∈ dims, (d.2.map Value.shown).Nodup) : (product dims).Nodup := by
  induction dims with
  | nil => exact List.nodup_singleton []
  | cons dim dims ih =>
    obtain ⟨d, vs⟩ := dim
    obtain ⟨hvs, hdims⟩ := List.forall_mem_cons.1 h
    refine List.nodup_flatMap.2 ⟨fun v _ => ?_, ?_⟩
    · exact (ih hdims).map fun _ _ he => (List.cons.inj he).2
    · refine (List.pairwise_map.1 hvs).imp fun hne => ?_
      -- the combinations of two values differ in the first place
      refine List.disjoint_left.2 fun c hc hc' => ?_
      obtain ⟨x, _, rfl⟩ := List.mem_map.1 hc
      obtain ⟨y, _, he⟩ := List.mem_map.1 hc'
      exact hne (Prod.mk.inj (List.cons.inj he).1).2.symm

theorem keys_of_mem_remaining (h : a ∈ m.remaining) : a.map (·.1) = m.dimensions.map (·.1) :=
  keys_of_mem_product (mem_product_of_mem_tuples (List.mem_of_mem_filter h))

theorem nodup_keys_remaining (hk : m.Keyed) (h : a ∈ m.remaining) : (a.map (·.1)).Nodup :=
  keys_of_mem_remaining h ▸ hk.dimensions

theorem nodup_remaining (h : m.Varied) : m.remaining.Nodup := by
  refine List.Nodup.filter _ ?_
  unfold tuples
  split
  · exact .nil
  · rw [← product_eq]
    exact nodup_product h.values

/-- No two combinations of the product are one mapping. -/
theorem pairwise_remaining (hk : m.Keyed) (hv : m.Varied) :
    m.remaining.Pairwise fun a b => ¬ SameMapping a b := by
  refine (nodup_remaining hv).imp_of_mem fun ha hb hne hsame => ?_
  exact hne (hsame.eq (nodup_keys_remaining hk ha)
    ((keys_of_mem_remaining ha).trans (keys_of_mem_remaining hb).symm))

/-- No two of the rows that are added are one mapping. -/
theorem pairwise_added (hv : m.Varied) : m.added.Pairwise fun a b => ¬ SameMapping a b :=
  (List.pairwise_map.2 hv.rows).sublist m.added_sublist

theorem exists_row_of_mem_added (h : b ∈ m.added) : ∃ row ∈ m.includes, rowCoordinates row = b :=
  List.mem_map.1 (m.added_sublist.subset h)

theorem nodup_keys_added (hk : m.Keyed) (h : b ∈ m.added) : (b.map (·.1)).Nodup := by
  obtain ⟨row, hrow, rfl⟩ := exists_row_of_mem_added h
  exact keys_rowCoordinates row ▸ hk.includes row hrow

/-- A row that is added and one mapping with a combination of the product names its coordinates in
another order. -/
theorem reorders_of_same (hk : m.Keyed) (ha : a ∈ m.remaining) (hb : b ∈ m.added)
    (h : SameMapping a b) : m.Reorders a b := by
  have hperm := h.perm (nodup_keys_remaining hk ha) (nodup_keys_added hk hb)
  refine ⟨ha, exists_row_of_mem_added hb, hperm, ?_⟩
  rintro rfl
  exact absurd ha (by simpa using (List.mem_filter.1 hb).2)

theorem Reorders.same (hk : m.Keyed) (h : m.Reorders a b) : SameMapping a b := by
  obtain ⟨ha, _, hperm, _⟩ := h
  exact .of_perm (nodup_keys_remaining hk ha) hperm

/-- Of two combinations that are one mapping, the later one is a row that names the earlier one in
another order. -/
theorem pairwise_combinations (hk : m.Keyed) (hv : m.Varied) (h : m.combinations = .ok cs) :
    cs.Pairwise fun a b => SameMapping a b → m.Reorders a b := by
  obtain ⟨_, _, rfl⟩ := combinations_eq_ok_iff.1 h
  refine List.pairwise_append.2 ⟨?_, ?_, fun a ha b hb => reorders_of_same hk ha hb⟩
  · exact (pairwise_remaining hk hv).imp fun hne hsame => absurd hsame hne
  · exact (pairwise_added hv).imp fun hne hsame => absurd hsame hne

/-- So no combination comes again just if no row names one in another order. -/
theorem pairwise_combinations_iff (hk : m.Keyed) (hv : m.Varied) (h : m.combinations = .ok cs) :
    cs.Pairwise (fun a b => ¬ SameMapping a b) ↔ ¬ ∃ a b, m.Reorders a b := by
  constructor
  · rintro hone ⟨a, b, hab⟩
    obtain ⟨_, _, rfl⟩ := combinations_eq_ok_iff.1 h
    obtain ⟨ha, ⟨row, hrow, rfl⟩, hperm, hne⟩ := id hab
    have hsame := hab.same hk
    rcases List.mem_append.1 (mem_added hrow) with hb | hb
    · have hkeys := keys_of_mem_remaining ha
      exact hne (hsame.eq (hkeys ▸ hk.dimensions) (hkeys.trans (keys_of_mem_remaining hb).symm))
    · exact (List.pairwise_append.1 hone).2.2 a ha _ hb hsame
  · intro hnone
    refine (pairwise_combinations hk hv h).imp ?_
    exact fun hab hsame => hnone ⟨_, _, hab hsame⟩

end MatrixSpec

/-! ## The instances of a stage -/

variable {t : StageTemplate} {ts : List StageTemplate} {is all : List Instance} {i : Instance}

/-- A stage has an instance for each combination of its matrix, and one without coordinates if it
has no matrix. -/
theorem StageTemplate.expand_cases (h : t.expand = .ok is) :
    ∃ cs, is = cs.map (fun c => { template := t, coordinates := c }) ∧
      ((∃ m, t.matrix = some m ∧ m.nonempty = true ∧ m.combinations = .ok cs) ∨
        (∀ m, t.matrix = some m → m.nonempty = false) ∧ cs = [[]]) := by
  unfold expand at h
  split at h
  · rename_i hnone
    cases h
    exact ⟨[[]], rfl, Or.inr ⟨by simp [hnone], rfl⟩⟩
  · rename_i m hm
    split at h
    · rename_i hfull
      rcases hcs : m.combinations with fault | cs
      · rw [hcs] at h
        cases h
      · rw [hcs] at h
        cases h
        exact ⟨cs, rfl, Or.inl ⟨m, hm, hfull, hcs⟩⟩
    · rename_i hempty
      cases h
      refine ⟨[[]], rfl, Or.inr ⟨fun m' hm' => ?_, rfl⟩⟩
      rw [hm, Option.some.injEq] at hm'
      exact hm' ▸ Bool.not_eq_true _ ▸ hempty

/-- Every stage has its instances, and these are all that there are. -/
theorem expandAll_spec (h : expandAll ts = .ok all) :
    (∀ t ∈ ts, ∃ is, t.expand = .ok is) ∧
      ∀ i, i ∈ all ↔ ∃ t ∈ ts, ∃ is, t.expand = .ok is ∧ i ∈ is := by
  induction ts generalizing all with
  | nil =>
    cases h
    simp
  | cons t ts ih =>
    rcases hone : t.expand with fault | is
    · simp [expandAll, hone, bind, Except.bind] at h
    rcases hrest : expandAll ts with fault | rest
    · simp [expandAll, hone, hrest, bind, Except.bind] at h
    · simp only [expandAll, hone, hrest, bind, Except.bind, pure, Except.pure,
        Except.ok.injEq] at h
      subst h
      obtain ⟨htotal, hmem⟩ := ih hrest
      exact ⟨List.forall_mem_cons.2 ⟨⟨is, hone⟩, htotal⟩, by simp [hmem, hone]⟩

/-- Where each matrix names its dimensions once, so do the instances: their coordinates are
mappings. -/
theorem nodup_keys_of_mem_expandAll (h : expandAll ts = .ok all)
    (hk : ∀ t ∈ ts, ∀ m, t.matrix = some m → m.Keyed) (hi : i ∈ all) :
    (i.coordinates.map (·.1)).Nodup := by
  obtain ⟨t, ht, is, hone, hi⟩ := ((expandAll_spec h).2 i).1 hi
  obtain ⟨cs, rfl, hcs⟩ := t.expand_cases hone
  obtain ⟨c, hc, rfl⟩ := List.mem_map.1 hi
  rcases hcs with ⟨m, hm, _, hcs⟩ | ⟨_, rfl⟩
  · obtain ⟨_, _, rfl⟩ := MatrixSpec.combinations_eq_ok_iff.1 hcs
    rcases List.mem_append.1 hc with hc | hc
    · exact MatrixSpec.nodup_keys_remaining (hk t ht m hm) hc
    · exact MatrixSpec.nodup_keys_added (hk t ht m hm) hc
  · obtain rfl := List.mem_singleton.1 hc
    exact .nil

/-- The instances of one of the stages. -/
theorem mem_expand_iff (h : expandAll ts = .ok all) (ht : t ∈ ts) (hone : t.expand = .ok is) :
    i ∈ is ↔ i ∈ all ∧ i.template = t := by
  have htemplate : ∀ {u : StageTemplate} {js : List Instance}, u.expand = .ok js → i ∈ js →
      i.template = u := by
    intro u js hu hi
    obtain ⟨cs, rfl, _⟩ := u.expand_cases hu
    obtain ⟨c, _, rfl⟩ := List.mem_map.1 hi
    rfl
  rw [(expandAll_spec h).2]
  constructor
  · exact fun hi => ⟨⟨t, ht, is, hone, hi⟩, htemplate hone hi⟩
  · rintro ⟨⟨u, _, js, hu, hi⟩, rfl⟩
    obtain rfl := htemplate hu hi
    rw [hone] at hu
    cases hu
    exact hi

end GatedPipeline
