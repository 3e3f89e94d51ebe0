-- The reference that names a producer by its identity. What the identity is
-- made of is read back from it: the name of the stage, and the coordinates in
-- their order.
import GatedPipeline.Stage.Basic
import GatedPipeline.Proofs.Text
import GatedPipeline.Proofs.Graph.Inputs
namespace GatedPipeline
open GatedPipeline.Text

/-! ## Coordinates that a reference can write -/

namespace Coordinates

/-- The text has no blanks around it, and neither of the characters that end a coordinate. -/
structure Clean (text : String) : Prop where
  trimmed : trim text = text
  noComma : ',' ∉ text.toList
  noBracket : ']' ∉ text.toList

instance (text : String) : Decidable (Clean text) :=
  decidable_of_iff (trim text = text ∧ ',' ∉ text.toList ∧ ']' ∉ text.toList)
    ⟨fun ⟨h₁, h₂, h₃⟩ => ⟨h₁, h₂, h₃⟩, fun h => ⟨h.trimmed, h.noComma, h.noBracket⟩⟩

/-- The dimensions and values are clean, and no dimension has the character that ends it. -/
def Writable (c : Coordinates) : Prop :=
  ∀ p ∈ c, Clean p.1 ∧ '=' ∉ p.1.toList ∧ Clean p.2

instance (c : Coordinates) : Decidable c.Writable :=
  inferInstanceAs (Decidable (∀ p ∈ c, Clean p.1 ∧ '=' ∉ p.1.toList ∧ Clean p.2))

/-- One coordinate as an identity writes it. -/
def written (p : String × String) : List Char := p.1.toList ++ '=' :: p.2.toList

end Coordinates

namespace OutputRef
open Coordinates

variable {name key quals : String} {c : Coordinates} {p : String × String}
  {qualifiers : List (String × String)}

/-! ## Reading the coordinates -/

theorem qualifier?_written (h : Clean p.1 ∧ '=' ∉ p.1.toList ∧ Clean p.2) :
    qualifier? (written p) = some p := by
  obtain ⟨hd, heq, hv⟩ := h
  simp [qualifier?, written, cut?_append heq, hd.trimmed, hv.trimmed]

theorem not_mem_written {x : Char} (hx : x ≠ '=') (hd : x ∉ p.1.toList) (hv : x ∉ p.2.toList) :
    x ∉ written p := by
  simp [written, hx, hd, hv]

theorem mapM_qualifier?_written (h : c.Writable) : (c.map written).mapM qualifier? = some c := by
  induction c with
  | nil => rfl
  | cons p c ih =>
    obtain ⟨hp, hc⟩ := List.forall_mem_cons.1 h
    simp [List.map_cons, List.mapM_cons, qualifier?_written hp, ih hc]

/-- The coordinates are read as they were written. -/
theorem qualifiers?_written (hne : c ≠ []) (h : c.Writable) :
    qualifiers? ([','].intercalate (c.map written)) = some c := by
  have hpieces : pieces ',' ([','].intercalate (c.map written)) = c.map written := by
    refine pieces_intercalate (by simpa using hne) fun part hpart => ?_
    obtain ⟨p, hp, rfl⟩ := List.mem_map.1 hpart
    obtain ⟨hd, _, hv⟩ := h p hp
    exact not_mem_written (by decide) hd.noComma hv.noComma
  have hsome : [','].intercalate (c.map written) ≠ [] := by
    -- the one piece of no text is no coordinate, which has a sign between its sides
    intro hempty
    rw [hempty] at hpieces
    have hmem : [] ∈ c.map written := hpieces ▸ List.mem_singleton_self []
    obtain ⟨p, _, hp⟩ := List.mem_map.1 hmem
    exact List.append_ne_nil_of_right_ne_nil _ (List.cons_ne_nil _ _) hp
  rw [qualifiers?, List.isEmpty_eq_false_iff.2 hsome, hpieces, mapM_qualifier?_written h]
  rfl

theorem not_mem_intercalate_written (h : c.Writable) :
    ']' ∉ [','].intercalate (c.map written) := by
  induction c with
  | nil => simp
  | cons p c ih =>
    obtain ⟨⟨hd, _, hv⟩, hc⟩ := List.forall_mem_cons.1 h
    have hp : ']' ∉ written p := not_mem_written (by decide) hd.noBracket hv.noBracket
    cases c with
    | nil => simpa using hp
    | cons q c => simpa [List.intercalate_cons_cons, hp] using ih hc

/-! ## Reading the whole -/

/-- A text that begins with a name and ends with a key has no blanks around it, and the name goes to
the first character that no name has. -/
theorem span_name {raw : String} {x : Char} (mid : List Char) (hn : IsKey name) (hk : IsKey key)
    (hx : isWordChar x = false) (hraw : raw.toList = name.toList ++ x :: (mid ++ key.toList)) :
    (dropLastBlanks (dropBlanks raw.toList)).takeWhile isWordChar = name.toList ∧
      (dropLastBlanks (dropBlanks raw.toList)).dropWhile isWordChar =
        x :: (mid ++ key.toList) := by
  obtain ⟨c, cs, hc⟩ := List.exists_cons_of_ne_nil hn.1
  obtain ⟨ks, k, hks⟩ := (List.eq_nil_or_concat key.toList).resolve_left hk.1
  have hfirst : isBlank c = false := not_isBlank_of_isWordChar (hn.2 c (by simp [hc]))
  have hlast : isBlank k = false := not_isBlank_of_isWordChar (hk.2 k (by simp [hks]))
  have hends : raw.toList = (c :: (cs ++ x :: (mid ++ ks))) ++ [k] := by
    simp [hraw, hc, hks]
  have hblanks : dropLastBlanks (dropBlanks raw.toList) = raw.toList := by
    rw [hends, List.cons_append, dropBlanks_cons hfirst, ← List.cons_append,
      dropLastBlanks_concat hlast]
  rw [hblanks, hraw, List.takeWhile_append_of_pos hn.2, List.dropWhile_append_of_pos hn.2]
  simp [hx]

/-- A stage and a key. -/
theorem parse?_stage (hn : IsKey name) (hk : IsKey key) :
    parse? (name ++ "." ++ key) =
      some { raw := name ++ "." ++ key, stage := some name, key } := by
  have hchars : (name ++ "." ++ key).toList = name.toList ++ '.' :: ([] ++ key.toList) := by
    simp [String.toList_append]
  obtain ⟨htake, hdrop⟩ := span_name [] hn hk (by decide) hchars
  have hword : name.toList.isEmpty = false := List.isEmpty_eq_false_iff.2 hn.1
  unfold parse?
  simp only [htake, hdrop, hword, List.nil_append, key?_toList hk, Option.map_some,
    String.ofList_toList]
  rfl

/-- A stage with coordinates and a key. -/
theorem parse?_qualified (hn : IsKey name) (hk : IsKey key) (hquals : ']' ∉ quals.toList)
    (h : qualifiers? quals.toList = some qualifiers) :
    parse? (name ++ "[" ++ quals ++ "]" ++ "." ++ key) =
      some { raw := name ++ "[" ++ quals ++ "]" ++ "." ++ key, stage := some name, qualifiers,
             key } := by
  have hchars : (name ++ "[" ++ quals ++ "]" ++ "." ++ key).toList =
      name.toList ++ '[' :: (quals.toList ++ [']', '.'] ++ key.toList) := by
    simp [String.toList_append]
  obtain ⟨htake, hdrop⟩ := span_name _ hn hk (by decide) hchars
  have hword : name.toList.isEmpty = false := List.isEmpty_eq_false_iff.2 hn.1
  have hinside : ∀ c ∈ quals.toList, decide (c ≠ ']') = true := by
    intro c hc
    exact decide_eq_true fun he => hquals (he ▸ hc)
  -- the first bracket that closes is the one after the coordinates
  have hclose : (quals.toList ++ [']', '.'] ++ key.toList).takeWhile (· ≠ ']') = quals.toList ∧
      (quals.toList ++ [']', '.'] ++ key.toList).dropWhile (· ≠ ']') =
        ']' :: '.' :: key.toList := by
    rw [List.append_assoc, List.takeWhile_append_of_pos hinside,
      List.dropWhile_append_of_pos hinside]
    simp
  unfold parse?
  simp only [htake, hdrop, hword, hclose.1, hclose.2, key?_toList hk, h, String.ofList_toList]
  rfl

/-- The identity of an instance with coordinates. -/
theorem instanceId_eq (hne : c ≠ []) : instanceId name c =
    name ++ "[" ++ String.ofList ([','].intercalate (c.map written)) ++ "]" := by
  have hinside : ",".intercalate (c.map fun p => p.1 ++ "=" ++ p.2) =
      String.ofList ([','].intercalate (c.map written)) := by
    have hchars : c.map (String.toList ∘ fun p => p.1 ++ "=" ++ p.2) = c.map written :=
      List.map_congr_left fun p _ => by simp [written, String.toList_append]
    rw [← String.toList_inj, String.toList_intercalate, List.map_map, hchars]
    exact String.toList_ofList.symm
  rw [instanceId, List.isEmpty_eq_false_iff.2 hne, ← hinside]
  rfl

/-- The identity of an instance and a key are read as its name, its coordinates and the key. -/
theorem parse?_instanceId (hn : IsKey name) (hk : IsKey key) (hc : c.Writable) :
    parse? (instanceId name c ++ "." ++ key) =
      some { raw := instanceId name c ++ "." ++ key, stage := some name, qualifiers := c,
             key } := by
  by_cases hne : c = []
  · subst hne
    exact parse?_stage hn hk
  · rw [instanceId_eq hne]
    refine parse?_qualified hn hk ?_ ?_
    · rw [String.toList_ofList]
      exact not_mem_intercalate_written hc
    · rw [String.toList_ofList]
      exact qualifiers?_written hne hc

end OutputRef

end GatedPipeline
