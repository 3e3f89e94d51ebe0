-- What a matrix expands to. The choices of one value for each dimension are
-- counted off in mixed radix, those that are excluded are left out, and each
-- added row follows that is not there yet.
import GatedPipeline.Stage.Matrix
import Mathlib.Algebra.BigOperators.Group.List.Basic
import Mathlib.Data.List.Induction
import Mathlib.Tactic.Common
namespace GatedPipeline.MatrixSpec

variable {m : MatrixSpec} {dims : List (String × List Value)} {c : Coordinates}

/-! ## Counting off the choices -/

/-- How many values each dimension has. -/
def sizes (dims : List (String × List Value)) : List Nat := dims.map (·.2.length)

/-- The digits of a number in the mixed radix of some sizes. The first digit counts most. -/
def digits : List Nat → Nat → List Nat
  | [], _ => []
  | _ :: sizes, n => n / sizes.prod :: digits sizes (n % sizes.prod)

/-- The values at these indices, one in each dimension, as texts. -/
def valuesAt : List (String × List Value) → List Nat → Coordinates
  | (d, vs) :: ds, i :: is => (d, (vs.map Value.shown).getD i "") :: valuesAt ds is
  | _, _ => []

/-- The combinations of the dimensions in the order of their indices. Without dimensions there
are none. -/
def tuples (m : MatrixSpec) : List Coordinates :=
  if m.dimensions = [] then []
  else (List.range (sizes m.dimensions).prod).map fun n =>
    valuesAt m.dimensions (digits (sizes m.dimensions) n)

/-- The number whose digits these indices are. -/
def number : List Nat → List Nat → Nat
  | _ :: sizes, i :: is => i * sizes.prod + number sizes is
  | _, _ => 0

section Digits

variable {ss is : List Nat} {n : Nat}

theorem forall₂_digits (h : n < ss.prod) : List.Forall₂ (· < ·) (digits ss n) ss := by
  induction ss generalizing n with
  | nil => exact .nil
  | cons s ss ih =>
    rw [List.prod_cons] at h
    have hpos : 0 < ss.prod := Nat.pos_of_mul_pos_left (Nat.zero_lt_of_lt h)
    exact .cons ((Nat.div_lt_iff_lt_mul hpos).2 h) (ih (Nat.mod_lt n hpos))

theorem number_digits (h : n < ss.prod) : number ss (digits ss n) = n := by
  induction ss generalizing n with
  | nil => exact (Nat.lt_one_iff.1 h).symm
  | cons s ss ih =>
    rw [List.prod_cons] at h
    have hpos : 0 < ss.prod := Nat.pos_of_mul_pos_left (Nat.zero_lt_of_lt h)
    rw [digits, number, ih (Nat.mod_lt n hpos), Nat.mul_comm]
    exact Nat.div_add_mod n ss.prod

theorem number_lt (h : List.Forall₂ (· < ·) is ss) : number ss is < ss.prod := by
  induction h with
  | nil => exact Nat.zero_lt_one
  | @cons i s is ss hi _ ih =>
    calc i * ss.prod + number ss is < (i + 1) * ss.prod := by rw [Nat.succ_mul]; omega
      _ ≤ s * ss.prod := Nat.mul_le_mul_right _ hi

theorem div_mod_add {a b j : Nat} (h : j < b) : (a * b + j) / b = a ∧ (a * b + j) % b = j := by
  rw [Nat.mul_comm]
  exact ⟨by rw [Nat.mul_add_div (by omega), Nat.div_eq_of_lt h, Nat.add_zero],
    by rw [Nat.mul_add_mod, Nat.mod_eq_of_lt h]⟩

theorem digits_number (h : List.Forall₂ (· < ·) is ss) : digits ss (number ss is) = is := by
  induction h with
  | nil => rfl
  | @cons i s is ss _ his ih =>
    obtain ⟨hdiv, hmod⟩ := @div_mod_add i ss.prod _ (number_lt his)
    rw [number, digits, hdiv, hmod, ih]

/-- The indices that choose a value of each dimension are the digits of just one number each. -/
theorem forall₂_iff_existsUnique :
    List.Forall₂ (· < ·) is ss ↔ ∃! n, n < ss.prod ∧ digits ss n = is := by
  constructor
  · intro h
    refine ⟨number ss is, ⟨number_lt h, digits_number h⟩, ?_⟩
    rintro n ⟨hn, rfl⟩
    exact (number_digits hn).symm
  · rintro ⟨n, ⟨hn, rfl⟩, _⟩
    exact forall₂_digits hn

end Digits

theorem range_mul (a b : Nat) :
    List.range (a * b) = (List.range a).flatMap fun i => (List.range b).map (i * b + ·) := by
  induction a with
  | zero => simp
  | succ a ih => rw [Nat.succ_mul, List.range_add, ih, List.range_succ, List.flatMap_append]; simp

theorem map_range_getD {α : Type} (xs : List α) (default : α) :
    (List.range xs.length).map (xs.getD · default) = xs := by
  refine List.ext_getElem (by simp) fun n h _ => ?_
  have hn : n < xs.length := by simpa using h
  simp [hn]

/-- The product has the combinations in the order of their indices. -/
theorem product_eq (dims : List (String × List Value)) :
    product dims = (List.range (sizes dims).prod).map fun n =>
      valuesAt dims (digits (sizes dims) n) := by
  induction dims with
  | nil => rfl
  | cons dim dims ih =>
    obtain ⟨d, vs⟩ := dim
    -- a number below the product is an index of the first dimension and a number for the others
    have hsplit : ∀ i, ∀ j ∈ List.range (sizes dims).prod,
        valuesAt ((d, vs) :: dims) (digits (sizes ((d, vs) :: dims)) (i * (sizes dims).prod + j)) =
          (d, (vs.map Value.shown).getD i "") :: valuesAt dims (digits (sizes dims) j) := by
      intro i j hj
      obtain ⟨hdiv, hmod⟩ := @div_mod_add i _ _ (List.mem_range.1 hj)
      simp only [sizes, List.map_cons, digits, valuesAt] at hdiv hmod ⊢
      rw [hdiv, hmod]
    have hvalues : vs.map Value.shown =
        (List.range vs.length).map ((vs.map Value.shown).getD · "") := by
      conv_lhs => rw [← map_range_getD (vs.map Value.shown) "", List.length_map]
    calc product ((d, vs) :: dims)
        = (vs.map Value.shown).flatMap fun v => (product dims).map ((d, v) :: ·) := by
          rw [List.flatMap_map]; rfl
      _ = (List.range vs.length).flatMap fun i =>
            (product dims).map ((d, (vs.map Value.shown).getD i "") :: ·) := by
          rw [hvalues, List.flatMap_map, ← hvalues]
      _ = (List.range vs.length).flatMap fun i => (List.range (sizes dims).prod).map fun j =>
            valuesAt ((d, vs) :: dims)
              (digits (sizes ((d, vs) :: dims)) (i * (sizes dims).prod + j)) := by
          refine List.flatMap_congr fun i _ => ?_
          rw [ih, List.map_map]
          exact List.map_congr_left fun j hj => (hsplit i j hj).symm
      _ = _ := by
          rw [show (sizes ((d, vs) :: dims)).prod = vs.length * (sizes dims).prod by simp [sizes],
            range_mul, List.map_flatMap]
          simp only [List.map_map, Function.comp_def]

/-- A combination of the product has a value of each dimension, in the order of the dimensions. -/
theorem mem_product : c ∈ product dims ↔
    List.Forall₂ (fun p d => p.1 = d.1 ∧ p.2 ∈ d.2.map Value.shown) c dims := by
  induction dims generalizing c with
  | nil => simp [product]
  | cons dim dims ih =>
    obtain ⟨d, vs⟩ := dim
    rcases c with _ | ⟨⟨k, v⟩, c⟩
    · simp [product]
    · rw [List.forall₂_cons, ← ih]
      simp only [product, List.mem_flatMap, List.mem_map, List.cons.injEq, Prod.mk.injEq]
      constructor
      · rintro ⟨w, hw, c', hc', ⟨rfl, rfl⟩, rfl⟩
        exact ⟨⟨rfl, w, hw, rfl⟩, hc'⟩
      · rintro ⟨⟨rfl, w, hw, rfl⟩, hc'⟩
        exact ⟨w, hw, c, hc', ⟨rfl, rfl⟩, rfl⟩

theorem keys_of_mem_product (h : c ∈ product dims) : c.map (·.1) = dims.map (·.1) :=
  List.forall₂_eq_eq_eq ▸ List.forall₂_map_left_iff.2
    (List.forall₂_map_right_iff.2 ((mem_product.1 h).imp fun _ _ hp => hp.1))

theorem mem_product_of_mem_tuples (h : c ∈ m.tuples) : c ∈ product m.dimensions := by
  unfold tuples at h
  split at h
  · cases h
  · rwa [product_eq]

/-! ## Leaving out and adding -/

/-- The combination has every value of the row. -/
def Matches (c : Coordinates) (row : List (String × Value)) : Prop :=
  ∀ q ∈ row, c.lookup q.1 = some q.2.shown

instance (c : Coordinates) (row : List (String × Value)) : Decidable (Matches c row) :=
  inferInstanceAs (Decidable (∀ q ∈ row, c.lookup q.1 = some q.2.shown))

/-- The combinations of the dimensions that match no row that excludes. -/
def remaining (m : MatrixSpec) : List Coordinates :=
  m.tuples.filter fun c => ¬ ∃ row ∈ m.excludes, Matches c row

/-- The added rows that are not among those: each once, where it first stands. -/
def added (m : MatrixSpec) : List Coordinates :=
  (m.includes.map rowCoordinates).eraseDups.filter fun c => !m.remaining.contains c

theorem kept_eq (m : MatrixSpec) : m.kept = m.remaining := by
  unfold kept remaining tuples
  by_cases hdims : m.dimensions = []
  · simp [hdims]
  · rw [if_neg (by simpa using hdims), if_neg hdims, ← product_eq]
    refine List.filter_congr fun c _ => ?_
    have hany : m.excludes.any (matchesRow c) = true ↔ ∃ row ∈ m.excludes, Matches c row := by
      simp [Matches, matchesRow]
    rw [Bool.eq_iff_iff, Bool.not_eq_true', ← Bool.not_eq_true, hany, decide_eq_true_iff]

/-- A row that names an unknown dimension matches no combination of the dimensions. -/
theorem not_matches_of_unknown {row : List (String × Value)} {q : String × Value} (hq : q ∈ row)
    (hunknown : q.1 ∉ m.dimensions.map (·.1)) (hc : c ∈ m.tuples) : ¬ Matches c row := by
  intro h
  obtain ⟨before, after, hsplit, _⟩ := List.lookup_eq_some_iff.1 (h q hq)
  have hkey : q.1 ∈ c.map (·.1) := by simp [hsplit]
  rw [keys_of_mem_product (mem_product_of_mem_tuples hc)] at hkey
  exact hunknown hkey

section Once

variable {α : Type} [BEq α] [LawfulBEq α]

theorem eraseDups_concat (xs : List α) (x : α) :
    (xs ++ [x]).eraseDups = if xs.contains x then xs.eraseDups else xs.eraseDups ++ [x] := by
  rw [List.eraseDups_append, List.cons_removeAll, List.nil_removeAll]
  rcases hx : xs.contains x
  · rfl
  · exact List.append_nil _

theorem eraseDups_sublist (xs : List α) : xs.eraseDups.Sublist xs := by
  induction xs using List.reverseRecOn with
  | nil => exact .slnil
  | append_singleton xs x ih =>
    rw [eraseDups_concat]
    split
    · exact ih.trans (List.sublist_append_left xs [x])
    · exact ih.append_right [x]

theorem nodup_eraseDups (xs : List α) : xs.eraseDups.Nodup := by
  induction xs using List.reverseRecOn with
  | nil => exact .nil
  | append_singleton xs x ih =>
    rw [eraseDups_concat]
    split
    · exact ih
    · rename_i hx
      rw [List.contains_iff_mem, ← List.mem_eraseDups] at hx
      exact (List.perm_append_singleton x _).nodup_iff.2 (List.nodup_cons.2 ⟨hx, ih⟩)

end Once

/-- Adding rows one after the other adds each that is neither there nor among those before it. -/
theorem foldl_addRow (rows : List (List (String × Value))) (cs : List Coordinates) :
    rows.foldl addRow cs =
      cs ++ (rows.map rowCoordinates).eraseDups.filter fun c => !cs.contains c := by
  induction rows using List.reverseRecOn with
  | nil => simp
  | append_singleton rows row ih =>
    rw [List.foldl_append, ih, List.map_append, List.map_singleton, eraseDups_concat,
      List.foldl_cons, List.foldl_nil, addRow]
    generalize rows.map rowCoordinates = before
    by_cases hcs : rowCoordinates row ∈ cs
    · rw [if_pos (List.mem_append_left _ hcs)]
      split <;> simp [hcs]
    · by_cases hbefore : rowCoordinates row ∈ before <;> simp [hcs, hbefore]

theorem foldl_addRow_kept (m : MatrixSpec) :
    m.includes.foldl addRow m.kept = m.remaining ++ m.added := by
  rw [foldl_addRow, kept_eq, added]

/-- The combinations are what remains and what is added, if all dimensions have values and that is
not nothing. -/
theorem combinations_eq_ok_iff {cs : List Coordinates} : m.combinations = .ok cs ↔
    (∀ d ∈ m.dimensions, d.2 ≠ []) ∧ m.remaining ++ m.added ≠ [] ∧
      cs = m.remaining ++ m.added := by
  simp only [combinations, foldl_addRow_kept, List.isEmpty_iff]
  split
  · rename_i d vs hfound
    have hempty : vs = [] := by simpa using List.find?_some hfound
    simp only [reduceCtorEq, false_iff]
    exact fun h => h.1 (d, vs) (List.mem_of_find?_eq_some hfound) hempty
  · rename_i hnone
    have hvalues : ∀ d ∈ m.dimensions, d.2 ≠ [] := by
      intro d hd hempty
      exact List.find?_eq_none.1 hnone d hd (List.isEmpty_iff.2 hempty)
    by_cases hall : m.remaining ++ m.added = []
    · rw [if_pos hall]
      simp only [reduceCtorEq, false_iff]
      exact fun h => h.2.1 hall
    · rw [if_neg hall, Except.ok.injEq]
      exact ⟨fun he => ⟨hvalues, hall, he.symm⟩, fun h => h.2.2.symm⟩

theorem mem_of_emptyDimension {d : String} (h : m.combinations = .error (.emptyDimension d)) :
    (d, []) ∈ m.dimensions := by
  unfold combinations at h
  split at h
  · rename_i d' vs hfound
    cases h
    obtain rfl : vs = [] := by simpa using List.find?_some hfound
    exact List.mem_of_find?_eq_some hfound
  · dsimp only at h
    split at h <;> cases h

theorem mem_added {row : List (String × Value)} (h : row ∈ m.includes) :
    rowCoordinates row ∈ m.remaining ++ m.added := by
  by_cases hr : rowCoordinates row ∈ m.remaining
  · exact List.mem_append_left _ hr
  · refine List.mem_append_right _ (List.mem_filter.2 ⟨?_, by simpa using hr⟩)
    exact List.mem_eraseDups.2 (List.mem_map_of_mem h)

theorem added_sublist (m : MatrixSpec) : m.added.Sublist (m.includes.map rowCoordinates) :=
  List.filter_sublist.trans (eraseDups_sublist _)

/-! ## The law -/

/-- A matrix is refused just if a dimension has no values, or if nothing remains and nothing is added;
a refusal for a dimension names one without values. Otherwise it expands to what remains of the
combinations of the dimensions, each of which comes once in the order of its indices, and then to
the added rows in their order, each once and unless it is there already. A row that excludes and
names an unknown dimension matches nothing, and no added row is lost. -/
theorem a_matrix_expands_to_its_product_and_its_rows (m : MatrixSpec) :
    ((∃ fault, m.combinations = .error fault) ↔
      (∃ d ∈ m.dimensions, d.2 = []) ∨ m.remaining ++ m.added = []) ∧
    (∀ d, m.combinations = .error (.emptyDimension d) → (d, []) ∈ m.dimensions) ∧
    (∀ cs, m.combinations = .ok cs → cs = m.remaining ++ m.added) ∧
    (∀ is, List.Forall₂ (· < ·) is (sizes m.dimensions) ↔
      ∃! n, n < (sizes m.dimensions).prod ∧ digits (sizes m.dimensions) n = is) ∧
    (∀ row ∈ m.excludes, (∃ q ∈ row, q.1 ∉ m.dimensions.map (·.1)) →
      ∀ c ∈ m.tuples, ¬ Matches c row) ∧
    m.added.Sublist (m.includes.map rowCoordinates) ∧ m.added.Nodup ∧
    ∀ row ∈ m.includes, rowCoordinates row ∈ m.remaining ++ m.added := by
  refine ⟨?_, fun _ => mem_of_emptyDimension, fun cs h => (combinations_eq_ok_iff.1 h).2.2,
    fun _ => forall₂_iff_existsUnique, ?_, m.added_sublist, (nodup_eraseDups _).filter _,
    fun _ => mem_added⟩
  · rcases h : m.combinations with fault | cs
    · simp only [Except.error.injEq, exists_eq', true_iff]
      by_contra hnot
      obtain ⟨hvalues, hne⟩ := not_or.1 hnot
      have hok := combinations_eq_ok_iff.2
        ⟨fun d hd he => hvalues ⟨d, hd, he⟩, hne, rfl⟩
      rw [h] at hok
      cases hok
    · obtain ⟨hvalues, hne, _⟩ := combinations_eq_ok_iff.1 h
      simp only [reduceCtorEq, exists_false, false_iff, not_or, not_exists, not_and]
      exact ⟨hvalues, hne⟩
  · rintro row _ ⟨q, hq, hunknown⟩ c hc
    exact not_matches_of_unknown hq hunknown hc

/-- Two systems and two machines without one of the four pairs, and a system of its own. -/
example : combinations {
      dimensions := [("os", [.text "linux", .text "windows"]), ("py", [.whole 2, .whole 3])]
      excludes := [[("os", .text "windows"), ("py", .text "3")], [("arch", .text "x64")]]
      includes := [[("os", .text "darwin"), ("py", .text "3")],
        [("os", .text "linux"), ("py", .whole 2)]] } =
    .ok [[("os", "linux"), ("py", "2")], [("os", "linux"), ("py", "3")],
      [("os", "windows"), ("py", "2")], [("os", "darwin"), ("py", "3")]] := by
  decide

end GatedPipeline.MatrixSpec
