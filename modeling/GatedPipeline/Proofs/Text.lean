-- Texts that were put together are taken apart again: at the blanks around
-- them, at each separator, and at the first one. And what is left of a text
-- when another one is replaced in it.
import GatedPipeline.Text.Blank
import GatedPipeline.Text.Find
namespace GatedPipeline.Text

variable {sep : Char} {a b : List Char}

/-! ## Blanks -/

theorem dropBlanks_cons {cs : List Char} {c : Char} (h : isBlank c = false) :
    dropBlanks (c :: cs) = c :: cs := by
  simp [dropBlanks, h]

/-- A text that does not end in a blank loses nothing. -/
theorem dropLastBlanks_concat {cs : List Char} {c : Char} (h : isBlank c = false) :
    dropLastBlanks (cs ++ [c]) = cs ++ [c] := by
  rw [dropLastBlanks, List.reverse_append, dropBlanks]
  simp [h]

/-! ## Separators -/

/-- A text without a separator is one piece. -/
theorem pieces_of_not_mem (h : sep ∉ a) : pieces sep a = [a] := by
  induction a with
  | nil => rfl
  | cons c a ih =>
    obtain ⟨hc, ha⟩ := List.ne_and_not_mem_of_not_mem_cons h
    simp only [pieces, Ne.symm hc, if_false, ih ha]

theorem pieces_append (h : sep ∉ a) : pieces sep (a ++ sep :: b) = a :: pieces sep b := by
  induction a with
  | nil => simp [pieces]
  | cons c a ih =>
    obtain ⟨hc, ha⟩ := List.ne_and_not_mem_of_not_mem_cons h
    simp only [List.cons_append, pieces, Ne.symm hc, if_false, ih ha]

/-- What was put together with separators comes apart into the same parts, if there is one. -/
theorem pieces_intercalate {parts : List (List Char)} (hne : parts ≠ [])
    (h : ∀ part ∈ parts, sep ∉ part) : pieces sep ([sep].intercalate parts) = parts := by
  induction parts with
  | nil => exact absurd rfl hne
  | cons part parts ih =>
    obtain ⟨hpart, hparts⟩ := List.forall_mem_cons.1 h
    cases parts with
    | nil => simpa using pieces_of_not_mem hpart
    | cons next rest =>
      rw [List.intercalate_cons_cons, List.append_assoc, List.singleton_append,
        pieces_append hpart, ih (List.cons_ne_nil _ _) hparts]

theorem cut?_append (h : sep ∉ a) : cut? sep (a ++ sep :: b) = some (a, b) := by
  induction a with
  | nil => simp [cut?]
  | cons c a ih =>
    obtain ⟨hc, ha⟩ := List.ne_and_not_mem_of_not_mem_cons h
    simp only [List.cons_append, cut?, Ne.symm hc, if_false, ih ha, Option.map_some]

variable {old new cs : List Char}

/-- What is skipped makes no difference to the rest. -/
theorem replaceFrom_eq_drop (old new : List Char) (skip : Nat) (cs : List Char) :
    replaceFrom old new skip cs = replaceFrom old new 0 (cs.drop skip) := by
  induction cs generalizing skip with
  | nil => simp [replaceFrom]
  | cons c cs ih =>
    cases skip with
    | zero => rfl
    | succ skip => rw [replaceFrom, ih, List.drop_succ_cons]

/-- Replacing leaves nothing of a text that is not empty just when the text consists of copies of
the old text and the new one is empty. -/
theorem replaceFrom_eq_nil_iff (h : old ≠ []) : replaceFrom old new 0 cs = [] ↔
    cs = [] ∨ new = [] ∧ ∃ n, cs = (List.replicate n old).flatten := by
  -- by induction on the length: the next place to look at may be anywhere in the rest
  induction hn : cs.length using Nat.strongRecOn generalizing cs with
  | ind n ih =>
    rcases cs with _ | ⟨c, cs⟩
    · simp [replaceFrom]
    by_cases hpre : old.isPrefixOf (c :: cs) = true
    · obtain ⟨rest, hrest⟩ := List.isPrefixOf_iff_prefix.1 hpre
      have hpos : 0 < old.length := List.length_pos_iff.2 h
      have hdrop : cs.drop (old.length - 1) = rest := by
        have hall : (c :: cs).drop old.length = rest := by rw [← hrest, List.drop_left]
        rwa [← Nat.sub_add_cancel hpos, List.drop_succ_cons] at hall
      have hlength : rest.length < n := by
        rw [← hn, ← hrest, List.length_append]
        omega
      rw [replaceFrom, if_pos hpre, List.append_eq_nil_iff, replaceFrom_eq_drop, hdrop,
        ih rest.length hlength rfl, ← hrest]
      refine ⟨fun ⟨hnew, hleft⟩ => Or.inr ⟨hnew, ?_⟩, fun hcs => ?_⟩
      · rcases hleft with rfl | ⟨_, n, rfl⟩
        · exact ⟨1, by simp⟩
        · exact ⟨n + 1, by rw [List.replicate_succ, List.flatten_cons]⟩
      · obtain ⟨hnew, n, hcopies⟩ := hcs.resolve_left (by simp [h])
        refine ⟨hnew, ?_⟩
        cases n with
        | zero => simp [h] at hcopies
        | succ n =>
          rw [List.replicate_succ, List.flatten_cons] at hcopies
          exact Or.inr ⟨hnew, n, List.append_cancel_left hcopies⟩
    · rw [replaceFrom, if_neg hpre]
      refine ⟨nofun, fun hcs => ?_⟩
      obtain ⟨_, n, hcopies⟩ := hcs.resolve_left (List.cons_ne_nil c cs)
      cases n with
      | zero => cases hcopies
      | succ n =>
        refine absurd (List.isPrefixOf_iff_prefix.2 ?_) hpre
        rw [hcopies, List.replicate_succ, List.flatten_cons]
        exact List.prefix_append old _

/-- A text over and over again. -/
def copies (n : Nat) (s : String) : String := String.ofList (List.replicate n s.toList).flatten

theorem replace_eq_empty_iff {old : String} (h : old ≠ "") (new s : String) :
    replace old new s = "" ↔ s = "" ∨ new = "" ∧ ∃ n, s = copies n old := by
  have hempty : ∀ {a : String}, a = "" ↔ a.toList = [] := fun {a} =>
    ⟨fun ha => by rw [ha]; rfl, fun ha => String.toList_injective (by rw [ha]; rfl)⟩
  have hcopies : ∀ n, s = copies n old ↔ s.toList = (List.replicate n old.toList).flatten :=
    fun n => ⟨fun hs => by rw [hs, copies, String.toList_ofList], fun hs => by
      rw [copies, ← hs, String.ofList_toList]⟩
  rw [replace, hempty, String.toList_ofList, replaceFrom_eq_nil_iff (fun ho => h (hempty.2 ho)),
    ← hempty, ← hempty]
  simp only [hcopies]

end GatedPipeline.Text
