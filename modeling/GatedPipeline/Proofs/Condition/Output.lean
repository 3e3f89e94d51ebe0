-- A condition that is one output of a stage: how its text is read, and what it
-- comes to.
import GatedPipeline.Proofs.Text
import GatedPipeline.Proofs.Condition.Relate
import GatedPipeline.Proofs.Graph.Inputs
namespace GatedPipeline.Condition
open GatedPipeline.Text OutputRef

/-! ## Reading it -/

/-- A part of a name ends where no character of a name follows. -/
theorem span_name {part rest : List Char} (hp : ∀ c ∈ part, isNameChar c = true)
    (hr : ∀ c ∈ rest.head?, isNameChar c = false) :
    (part ++ rest).takeWhile isNameChar = part ∧ (part ++ rest).dropWhile isNameChar = rest := by
  have hrest : rest.takeWhile isNameChar = [] ∧ rest.dropWhile isNameChar = rest := by
    cases rest with
    | nil => exact ⟨rfl, rfl⟩
    | cons c rest => simp [hr c rfl]
  rw [List.takeWhile_append_of_pos hp, List.dropWhile_append_of_pos hp, hrest.1, hrest.2]
  simp

/-- One more part of a dotted name. -/
theorem scanParts_cons {part rest : List Char} (hne : part ≠ [])
    (hp : ∀ c ∈ part, isNameChar c = true) (hr : ∀ c ∈ rest.head?, isNameChar c = false) :
    scanParts ('.' :: (part ++ rest)) =
      (String.ofList part :: (scanParts rest).1, (scanParts rest).2) := by
  obtain ⟨htake, hdrop⟩ := span_name hp hr
  rw [scanParts]
  simp only [htake, hdrop, List.isEmpty_iff, hne, if_false]

/-- The first token of a text, and those of the rest. -/
theorem lex_cons {cs rest : List Char} {t : Token} {ts : List Token}
    (h : scan? (dropBlanks cs) = some (t, rest)) (hrest : lex rest = .ok ts) :
    lex cs = .ok (t :: ts) := by
  rw [lex]
  split
  · rename_i hempty
    rw [List.isEmpty_iff.1 hempty] at h
    cases h
  · split
    · rename_i hscan
      rw [h] at hscan
      cases hscan
    · rename_i hscan
      rw [h] at hscan
      cases hscan
      rw [hrest]

/-- A text that is one token. -/
theorem lex_single {cs : List Char} {t : Token} (h : scan? (dropBlanks cs) = some (t, [])) :
    lex cs = .ok [t] := by
  apply lex_cons h
  rw [lex]
  rfl

theorem scanNumber?_of_not_digit {c : Char} {r : List Char} (h : isDigit c = false) :
    scanNumber? (c :: r) = none := by
  simp [scanNumber?, h]

/-- The name of an output is read as the reference to it. -/
theorem parse_output {stage key : String} (hs : IsKey stage) (hk : IsKey key) :
    parse ("outputs." ++ stage ++ "." ++ key) = .ok (.ref ⟨.outputs, [stage, key]⟩) := by
  have hdot : isNameChar '.' = false := by decide
  have hkey : scanParts ('.' :: (key.toList ++ [])) = ([key], []) := by
    rw [scanParts_cons hk.1 hk.2 (by simp), scanParts]
    · simp
    · simp
  have hparts : scanParts ('.' :: (stage.toList ++ '.' :: (key.toList ++ []))) =
      ([stage, key], []) := by
    rw [scanParts_cons hs.1 hs.2 (by simp [hdot]), hkey, String.ofList_toList]
  generalize hrest : stage.toList ++ '.' :: (key.toList ++ []) = rest at hparts
  have hchars : ("outputs." ++ stage ++ "." ++ key).toList =
      'o' :: ("utputs".toList ++ '.' :: rest) := by
    rw [← hrest]
    simp [String.toList_append]
  obtain ⟨htake, hdrop⟩ := @span_name "utputs".toList ('.' :: rest) (List.all_eq_true.1 rfl)
    (by simp [hdot])
  have hname : scanName? ('o' :: ("utputs".toList ++ '.' :: rest)) =
      some (["outputs", stage, key], []) := by
    simp only [scanName?, htake, hdrop, hparts]
    rfl
  have hscan : scan? ('o' :: ("utputs".toList ++ '.' :: rest)) =
      some (.name ["outputs", stage, key], []) := by
    have hmark : scanMark? ('o' :: ("utputs".toList ++ '.' :: rest)) = none := rfl
    have hnumber := @scanNumber?_of_not_digit 'o' ("utputs".toList ++ '.' :: rest) (by decide)
    simp only [scan?, hmark, hnumber, hname]
    rfl
  have hblank : isBlankText ("outputs." ++ stage ++ "." ++ key) = false := by
    rw [isBlankText, hchars]
    rfl
  have hlast : dropLastBlanks ('o' :: ("utputs".toList ++ '.' :: rest)) =
      'o' :: ("utputs".toList ++ '.' :: rest) := by
    -- the last character is the last one of the key
    obtain ⟨cs, c, hc⟩ := (List.eq_nil_or_concat key.toList).resolve_left hk.1
    have hends : 'o' :: ("utputs".toList ++ '.' :: rest) =
        ('o' :: ("utputs".toList ++ '.' :: (stage.toList ++ '.' :: cs))) ++ [c] := by
      simp [← hrest, hc]
    have hlast : isBlank c = false :=
      not_isBlank_of_isWordChar (hk.2 c (by rw [hc]; simp))
    rw [hends]
    exact dropLastBlanks_concat hlast
  have htokens : tokenize ("outputs." ++ stage ++ "." ++ key) =
      .ok [.name ["outputs", stage, key]] := by
    have hlex := @lex_single ('o' :: ("utputs".toList ++ '.' :: rest)) _ hscan
    rw [tokenize, hchars, hlast, hlex]
    rfl
  have hprimary : parsePrimary [.name ["outputs", stage, key]] =
      .ok ⟨.ref ⟨.outputs, [stage, key]⟩, [], by simp⟩ := by
    rw [parsePrimary]
    · rfl
    · intro _ hrest
      cases hrest
  rw [parse, hblank, htokens]
  simp only [parseTokens, parseOr, parseAnd, parseNot, parseComparison, hprimary, parseOrTail,
    parseAndTail]
  rfl

theorem outputReferences_output {stage key : String} (hs : IsKey stage) (hk : IsKey key) :
    outputReferences ("outputs." ++ stage ++ "." ++ key) = .ok [(stage, key)] := by
  rw [outputReferences, references, parse_output hs hk]
  rfl

/-! ## What it comes to -/

/-- It holds if the output is there and is not empty, and does not ask for the release decision. -/
theorem evaluate_output {stage key : String} (hs : IsKey stage) (hk : IsKey key) (s : Scope) :
    evaluate (some ("outputs." ++ stage ++ "." ++ key)) s =
      { holds := .ok ((s.outputs.bind fun find => find stage key).any Value.truthy) } := by
  have hone : ".".intercalate [key] = key := rfl
  rw [evaluate_of_parse (parse_output hs hk)]
  simp only [Verdict.ofAnswer, Expr.eval, Scope.resolve, Scope.lookup, hone]
  rcases s.outputs with _ | find
  · rfl
  · rcases hfound : find stage key with _ | v
    · simp [hfound, Except.mapError, Scope.asksRelease]
    · simp [hfound, Except.mapError, Scope.asksRelease]

end GatedPipeline.Condition

namespace GatedPipeline.StageGraph
open OutputRef

/-- When a graph is built, it has one producer. -/
theorem resolveCondition_output {g : StageGraph} {i : Instance} {stage key : String}
    {source : Source} (hs : IsKey stage) (hk : IsKey key)
    (hc : i.template.condition = some ("outputs." ++ stage ++ "." ++ key))
    (hr : g.resolve i (conditionRef stage key) = .ok source) :
    g.resolveCondition i = .ok [((i.id, stage, key), source.producer)] := by
  have hne : "outputs." ++ stage ++ "." ++ key ≠ "" := by
    intro he
    have hparse := Condition.parse_output hs hk
    rw [he] at hparse
    cases hparse
  rw [conditionRef] at hr
  unfold resolveCondition
  rw [hc]
  simp only [hne, if_false, Condition.outputReferences_output hs hk, List.mapM_cons,
    List.mapM_nil, hr]
  rfl

end GatedPipeline.StageGraph
