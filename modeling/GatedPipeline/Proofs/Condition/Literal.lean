-- Texts written as literals. A blank ends the token before it, and inside the
-- quotation marks every mark and every backslash is escaped, so nothing in the
-- text ends the literal and nothing in it reaches what stands around.
import GatedPipeline.Proofs.Condition.Output
import GatedPipeline.Proofs.Condition.Parse
namespace GatedPipeline.Condition
open GatedPipeline.Text

/-! ## What is no blank -/

/-- The numbers of the blanks. -/
def blankCodes : List Nat :=
  [0x20, 0x85, 0xa0, 0x1680, 0x2028, 0x2029, 0x202f, 0x205f, 0x3000] ++ List.range' 0x09 5 ++
    List.range' 0x1c 4 ++ List.range' 0x2000 11

section Blank

variable {b : Char} (h : isBlank b = true)
include h

theorem toNat_mem_blankCodes : b.toNat ∈ blankCodes := by
  simp only [isBlank, Bool.or_eq_true, Bool.and_eq_true, beq_iff_eq, decide_eq_true_eq] at h
  simp only [blankCodes, List.mem_append, List.mem_cons, List.not_mem_nil, or_false,
    List.mem_range'_1]
  omega

theorem isDigit_of_isBlank : isDigit b = false := by
  have hnone : ∀ n ∈ blankCodes,
      digitZeros.find? (fun first => first ≤ n && n < first + 10) = none := by decide
  rw [isDigit, digitValue?, hnone _ (toNat_mem_blankCodes h)]
  rfl

theorem isNameChar_of_isBlank : isNameChar b = false := by
  by_contra hname
  rw [Bool.not_eq_false] at hname
  rw [OutputRef.not_isBlank_of_isWordChar hname] at h
  cases h

theorem isNameStart_of_isBlank : isNameStart b = false := by
  have hname := isNameChar_of_isBlank h
  simp only [isNameChar, Char.isAlphanum, Bool.or_eq_false_iff] at hname
  simp only [isNameStart, hname.1.1.1, hname.1.2, Bool.or_self]

theorem ne_of_isBlank {c : Char} (hc : isBlank c = false) : b ≠ c := by
  rintro rfl
  rw [h] at hc
  cases hc

end Blank

/-! ## A blank ends a token -/

section Scan

variable {b : Char} {p : Char → Bool} {cs rest : List Char}

theorem takeWhile_append_cons (hb : p b = false) (cs more : List Char) :
    (cs ++ b :: more).takeWhile p = cs.takeWhile p := by
  induction cs with
  | nil => simp [hb]
  | cons c cs ih => by_cases hc : p c = true <;> simp [hc, ih]

theorem dropWhile_append_cons (hb : p b = false) (cs more : List Char) :
    (cs ++ b :: more).dropWhile p = cs.dropWhile p ++ b :: more := by
  induction cs with
  | nil => simp [hb]
  | cons c cs ih => by_cases hc : p c = true <;> simp [hc, ih]

theorem head?_append_cons_ne {c : Char} (hc : b ≠ c) (h : cs.head? ≠ some c) (more : List Char) :
    (cs ++ b :: more).head? ≠ some c := by
  cases cs with
  | nil => simpa using hc
  | cons => exact h

theorem scanMark?_append {m : Mark} (hb : isBlank b = true) (more : List Char)
    (h : scanMark? cs = some (m, rest)) :
    scanMark? (cs ++ b :: more) = some (m, rest ++ b :: more) := by
  have hnext : ∀ {r : List Char}, (∀ r', r = '=' :: r' → False) →
      ∀ r', r ++ b :: more = '=' :: r' → False := by
    intro r hr r' he
    refine head?_append_cons_ne (ne_of_isBlank hb (by decide)) ?_ more (congrArg List.head? he)
    intro hhead
    obtain ⟨r'', hr''⟩ := List.head?_eq_some_iff.1 hhead
    exact hr r'' hr''
  unfold scanMark? at h
  split at h
  case h_7 r hr | h_8 r hr | h_9 r hr =>
    cases h
    rw [List.cons_append, scanMark?]
    exact hnext hr
  case h_15 => cases h
  all_goals
    cases h
    rfl

/-- The characters that a mark starts with. -/
def markStarts : List Char := ['|', '&', '=', '<', '>', '!', '(', ')', '[', ']', ',']

/-- A character of a class without those that start a mark starts none. -/
theorem scanMark?_eq_none {c : Char} (hp : markStarts.any p = false) (hc : p c = true)
    (r : List Char) : scanMark? (c :: r) = none := by
  have hstart : ∀ m ∈ markStarts, c ≠ m := fun m hm he =>
    List.any_eq_false.1 hp m hm (he ▸ hc)
  unfold scanMark?
  split
  case h_15 => rfl
  all_goals exact absurd (List.cons.inj ‹c :: r = _ :: _›).1 (hstart _ (by simp [markStarts]))

theorem scanBody?_quote (quote : Char) (r : List Char) :
    scanBody? quote (quote :: r) = some ([], r) := by
  cases r <;> simp [scanBody?]

theorem scanBody?_escape {quote d : Char} (hquote : quote ≠ '\\') (hd : d ≠ '\n') (r : List Char) :
    scanBody? quote ('\\' :: d :: r) =
      (scanBody? quote r).map fun (body, rest) => ('\\' :: d :: body, rest) := by
  simp [scanBody?, Ne.symm hquote, hd]

theorem scanBody?_plain {quote c : Char} (hc : c ≠ quote) (hescape : c ≠ '\\') (r : List Char) :
    scanBody? quote (c :: r) = (scanBody? quote r).map fun (body, rest) => (c :: body, rest) := by
  cases r <;> simp [scanBody?, hc, hescape]

theorem scanBody?_append {quote : Char} {body : List Char} (hquote : quote ≠ '\\')
    (more : List Char) (h : scanBody? quote cs = some (body, rest)) :
    scanBody? quote (cs ++ more) = some (body, rest ++ more) := by
  fun_induction scanBody? quote cs generalizing body rest with
  | case1 => cases h
  | case2 =>
    cases h
    exact scanBody?_quote quote more
  | case3 => cases h
  | case4 =>
    cases h
    exact scanBody?_quote quote _
  | case5 => cases h
  | case6 d r hd _ ih =>
    obtain ⟨⟨body', rest'⟩, hr, he⟩ := Option.map_eq_some_iff.1 h
    cases he
    rw [List.cons_append, List.cons_append, scanBody?_escape hquote hd, ih hr]
    rfl
  | case7 c d r hc hescape ih =>
    obtain ⟨⟨body', rest'⟩, hr, he⟩ := Option.map_eq_some_iff.1 h
    cases he
    rw [List.cons_append, scanBody?_plain hc hescape, ih hr]
    rfl

theorem giveBack?_append {digits : List Char} (hb : isBlank b = true) (more : List Char) :
    giveBack? digits (rest ++ b :: more) =
      (giveBack? digits rest).map fun (ds, after) => (ds, after ++ b :: more) := by
  have hhead : (rest ++ b :: more).head?.any isNameStart = rest.head?.any isNameStart := by
    cases rest with
    | nil => simp [isNameStart_of_isBlank hb]
    | cons c r => rfl
  unfold giveBack?
  rw [hhead]
  split
  · split
    · split <;> rfl
    · rfl
  · rfl

theorem scanNumber?_append (hb : isBlank b = true) (cs more : List Char) :
    scanNumber? (cs ++ b :: more) =
      (scanNumber? cs).map fun (n, after) => (n, after ++ b :: more) := by
  have hdigit := isDigit_of_isBlank hb
  unfold scanNumber?
  simp only [takeWhile_append_cons hdigit, dropWhile_append_cons hdigit]
  generalize cs.takeWhile isDigit = whole
  generalize cs.dropWhile isDigit = rest
  split
  · rfl
  · by_cases hpoint : rest.head? = some '.'
    · obtain ⟨r, rfl⟩ := List.head?_eq_some_iff.1 hpoint
      simp only [List.cons_append, takeWhile_append_cons hdigit, dropWhile_append_cons hdigit,
        giveBack?_append hb]
      split
      · rfl
      · rcases giveBack? (r.takeWhile isDigit) (r.dropWhile isDigit) with _ | ⟨fraction, after⟩ <;>
          rfl
    · have hpoint' := head?_append_cons_ne (ne_of_isBlank hb (by decide)) hpoint more
      split
      · exact absurd (congrArg List.head? ‹_›) hpoint'
      · split
        · exact absurd rfl hpoint
        · rw [giveBack?_append hb]
          rcases giveBack? whole rest with _ | ⟨ds, after⟩ <;> rfl

theorem scanParts_of_ne (h : cs.head? ≠ some '.') : scanParts cs = ([], cs) := by
  rw [scanParts]
  rintro r rfl
  exact h rfl

theorem scanParts_append (hb : isBlank b = true) (cs more : List Char) :
    scanParts (cs ++ b :: more) = ((scanParts cs).1, (scanParts cs).2 ++ b :: more) := by
  have hname := isNameChar_of_isBlank hb
  fun_induction scanParts cs with
  | case1 r part hempty =>
    rw [List.cons_append, scanParts]
    simp only [takeWhile_append_cons hname]
    rw [if_pos hempty]
  | case2 r part hempty parts after hrest ih =>
    rw [List.cons_append, scanParts]
    simp only [takeWhile_append_cons hname, dropWhile_append_cons hname, ih]
    rw [if_neg hempty, hrest]
  | case3 cs hcs =>
    have hpoint : cs.head? ≠ some '.' := fun h =>
      (List.head?_eq_some_iff.1 h).elim hcs
    rw [scanParts_of_ne (head?_append_cons_ne (ne_of_isBlank hb (by decide)) hpoint more)]

theorem scanName?_append (hb : isBlank b = true) (cs more : List Char) :
    scanName? (cs ++ b :: more) =
      (scanName? cs).map fun (parts, after) => (parts, after ++ b :: more) := by
  have hname := isNameChar_of_isBlank hb
  cases cs with
  | nil => simp [scanName?, isNameStart_of_isBlank hb]
  | cons c r =>
    rw [List.cons_append, scanName?, scanName?]
    simp only [takeWhile_append_cons hname, dropWhile_append_cons hname, scanParts_append hb]
    split <;> rfl

/-- A token that is read from a text is read from it also with a blank and more after it. -/
theorem scan?_append {t : Token} (hb : isBlank b = true) (more : List Char)
    (h : scan? cs = some (t, rest)) : scan? (cs ++ b :: more) = some (t, rest ++ b :: more) := by
  unfold scan? at h ⊢
  split at h
  · rename_i hmark
    cases h
    rw [scanMark?_append hb more hmark]
  rcases cs with _ | ⟨c, r⟩
  · cases h
  dsimp only [List.cons_append] at h ⊢
  by_cases hquote : (c = '\'' || c = '"') = true
  · obtain ⟨⟨body, rest'⟩, hbody, he⟩ := Option.map_eq_some_iff.1 ((if_pos hquote).symm.trans h)
    cases he
    have hescape : c ≠ '\\' := by
      rintro rfl
      exact absurd hquote (by decide)
    rw [scanMark?_eq_none (p := fun c => c = '\'' || c = '"') rfl hquote]
    simp only [hquote, if_true, scanBody?_append hescape _ hbody]
    rfl
  · have hnumber := scanNumber?_append hb (c :: r) more
    have hname := scanName?_append hb (c :: r) more
    rw [List.cons_append] at hnumber hname
    have hstart : isDigit c = true ∨ isNameStart c = true := by
      by_contra hneither
      simp only [not_or, Bool.not_eq_true] at hneither
      simp only [if_neg hquote, scanNumber?_of_not_digit hneither.1, scanName?, hneither.2] at h
      cases h
    have hmark : scanMark? (c :: (r ++ b :: more)) = none :=
      hstart.elim (fun hc => scanMark?_eq_none rfl hc _)
        fun hc => scanMark?_eq_none rfl hc _
    simp only [if_neg hquote] at h
    rw [hmark]
    simp only [if_neg hquote, hnumber, hname]
    rcases hn : scanNumber? (c :: r) with _ | ⟨⟨whole, fraction⟩, after⟩
    · rw [hn] at h
      obtain ⟨⟨parts, after⟩, hparts, he⟩ := Option.map_eq_some_iff.1 h
      cases he
      rw [hparts]
      rfl
    · rw [hn] at h
      cases h
      rfl

end Scan

/-! ## The tokens before a blank and those after it -/

section Lex

variable {b : Char} {cs more : List Char} {ts us : List Token}

theorem dropBlanks_append (h : dropBlanks cs ≠ []) (more : List Char) :
    dropBlanks (cs ++ more) = dropBlanks cs ++ more := by
  induction cs with
  | nil => exact absurd rfl h
  | cons c cs ih =>
    by_cases hc : isBlank c = true
    · simp only [dropBlanks, List.cons_append, List.dropWhile_cons, hc, if_true] at ih h ⊢
      exact ih h
    · simp [dropBlanks, hc]

/-- What two texts consist of, with a blank between them, is what each of them consists of. -/
theorem lex_append (hb : isBlank b = true) (hcs : lex cs = .ok ts)
    (hmore : lex (b :: more) = .ok us) : lex (cs ++ b :: more) = .ok (ts ++ us) := by
  fun_induction lex cs generalizing ts with
  | case1 cs hempty =>
    cases hcs
    rwa [List.isEmpty_iff.1 hempty]
  | case2 => cases hcs
  | case3 cs hempty t rest hscan ts' hrest ih =>
    cases hcs
    have hne : dropBlanks cs ≠ [] := fun hnil => by
      rw [hnil] at hscan
      cases hscan
    have hscan' : scan? (dropBlanks (cs ++ b :: more)) = some (t, rest ++ b :: more) := by
      rw [dropBlanks_append hne]
      exact scan?_append hb more hscan
    exact lex_cons hscan' (ih hrest)
  | case4 => cases hcs

/-- A blank before a text that has tokens changes nothing. -/
theorem lex_blank (hb : isBlank b = true) (hne : cs ≠ []) (h : lex cs = .ok ts) :
    lex (b :: cs) = .ok ts := by
  rw [lex] at h
  split at h
  · rename_i hempty
    exact absurd (List.isEmpty_iff.1 hempty) hne
  split at h
  · cases h
  rename_i t rest hscan
  split at h
  · rename_i hrest
    cases h
    have hscan' : scan? (dropBlanks (b :: cs)) = some (t, rest) := by
      simpa only [dropBlanks, List.dropWhile_cons, hb, if_true] using hscan
    exact lex_cons hscan' hrest
  · cases h

theorem lex_blanks {bs : List Char} (hbs : ∀ b ∈ bs, isBlank b = true) (hne : cs ≠ [])
    (h : lex cs = .ok ts) : lex (bs ++ cs) = .ok ts := by
  induction bs with
  | nil => exact h
  | cons b bs ih =>
    obtain ⟨hb, hbs⟩ := List.forall_mem_cons.1 hbs
    exact lex_blank hb (by simp [hne]) (ih hbs)

theorem tokenize_eq_ok {text : String} :
    tokenize text = .ok ts ↔ lex (dropLastBlanks text.toList) = .ok ts := by
  unfold tokenize
  dsimp only
  rcases lex (dropLastBlanks text.toList) with unread | us
  · exact ⟨nofun, nofun⟩
  · simp [Except.mapError]

/-- A text is what is left of it without the blanks at its end, and these. -/
theorem exists_lastBlanks (cs : List Char) :
    ∃ bs, (∀ b ∈ bs, isBlank b = true) ∧ cs = dropLastBlanks cs ++ bs := by
  refine ⟨(cs.reverse.takeWhile isBlank).reverse, fun b hb => ?_, ?_⟩
  · exact List.mem_takeWhile_imp (List.mem_reverse.1 hb)
  · rw [dropLastBlanks, ← List.reverse_append, dropBlanks, List.takeWhile_append_dropWhile,
      List.reverse_reverse]

theorem dropLastBlanks_append_cons {c : Char} (hc : isBlank c = false) (cs more : List Char) :
    dropLastBlanks (cs ++ c :: more) = cs ++ c :: dropLastBlanks more := by
  rw [dropLastBlanks, List.reverse_append, List.reverse_cons, List.append_assoc,
    List.singleton_append, dropBlanks, dropWhile_append_cons hc]
  simp [dropLastBlanks, dropBlanks]

/-- A blank in front adds no token, be it that it is kept or that only blanks follow. -/
theorem lex_dropLastBlanks_cons (hb : isBlank b = true) (h : lex (dropLastBlanks cs) = .ok ts) :
    lex (dropLastBlanks (b :: cs)) = .ok ts := by
  have hcons : dropLastBlanks (b :: cs) =
      if dropLastBlanks cs = [] then [] else b :: dropLastBlanks cs := by
    simp only [dropLastBlanks, dropBlanks, List.reverse_cons, List.dropWhile_append,
      List.isEmpty_iff, List.reverse_eq_nil_iff]
    split <;> simp [hb]
  rw [hcons]
  split
  · rename_i hnil
    rwa [hnil] at h
  · rename_i hne
    exact lex_blank hb hne h

end Lex

/-! ## Literals -/

/-- The characters with a backslash before every backslash and every quotation mark. -/
def escaped (quote : Char) (cs : List Char) : List Char :=
  cs.flatMap fun c => if c = '\\' ∨ c = quote then ['\\', c] else [c]

/-- The text between quotation marks. -/
def literal (quote : Char) (s : String) : String :=
  String.ofList (quote :: escaped quote s.toList ++ [quote])

section Literal

variable {quote : Char}

theorem escaped_cons (quote c : Char) (cs : List Char) : escaped quote (c :: cs) =
    if c = '\\' ∨ c = quote then '\\' :: c :: escaped quote cs else c :: escaped quote cs := by
  unfold escaped
  rw [List.flatMap_cons]
  split <;> rfl

theorem unescape_escape {d : Char} (hd : d ≠ '\n') (r : List Char) :
    unescape ('\\' :: d :: r) = d :: unescape r := by
  simp [unescape, hd]

theorem unescape_plain {c : Char} (hc : c ≠ '\\') (r : List Char) :
    unescape (c :: r) = c :: unescape r := by
  cases r <;> simp [unescape, hc]

/-- Escaping is undone by reading. -/
theorem unescape_escaped (hquote : quote ≠ '\n') (cs : List Char) :
    unescape (escaped quote cs) = cs := by
  induction cs with
  | nil => rfl
  | cons c cs ih =>
    rw [escaped_cons]
    split
    · rename_i hc
      have hline : c ≠ '\n' := by
        rcases hc with rfl | rfl
        · decide
        · exact hquote
      rw [unescape_escape hline, ih]
    · rename_i hc
      rw [unescape_plain (not_or.1 hc).1, ih]

/-- An escaped text ends at its quotation mark and not before. -/
theorem scanBody?_escaped (hline : quote ≠ '\n') (hback : quote ≠ '\\') (cs rest : List Char) :
    scanBody? quote (escaped quote cs ++ quote :: rest) = some (escaped quote cs, rest) := by
  induction cs with
  | nil => exact scanBody?_quote quote rest
  | cons c cs ih =>
    rw [escaped_cons]
    split
    · rename_i hc
      have hline' : c ≠ '\n' := by
        rcases hc with rfl | rfl
        · decide
        · exact hline
      rw [List.cons_append, List.cons_append, scanBody?_escape hback hline', ih]
      rfl
    · rename_i hc
      rw [List.cons_append, scanBody?_plain (not_or.1 hc).2 (not_or.1 hc).1, ih]
      rfl

/-- A literal is one token, whatever it quotes and whatever follows it. -/
theorem lex_literal (hquote : quote = '\'' ∨ quote = '"') (cs : List Char) {rest : List Char}
    {ts : List Token} (h : lex rest = .ok ts) :
    lex (quote :: (escaped quote cs ++ quote :: rest)) =
      .ok (.quoted quote (escaped quote cs) :: ts) := by
  have hline : quote ≠ '\n' := by rcases hquote with rfl | rfl <;> decide
  have hback : quote ≠ '\\' := by rcases hquote with rfl | rfl <;> decide
  have hblank : isBlank quote = false := by rcases hquote with rfl | rfl <;> decide
  have hquote' : (quote = '\'' || quote = '"') = true := by simpa using hquote
  apply lex_cons _ h
  rw [dropBlanks_cons hblank]
  unfold scan?
  rw [scanMark?_eq_none (p := fun c => c = '\'' || c = '"') rfl hquote']
  simp only [hquote', if_true, scanBody?_escaped hline hback]
  rfl

/-- A literal between other tokens, with blanks before it. -/
theorem lex_around_literal (hquote : quote = '\'' ∨ quote = '"') (body : List Char)
    {cs gap rest : List Char} {ts us : List Token} (hgap : ∀ b ∈ gap, isBlank b = true)
    (hne : gap ≠ []) (hcs : lex cs = .ok ts) (hrest : lex rest = .ok us) :
    lex (cs ++ gap ++ quote :: (escaped quote body ++ quote :: rest)) =
      .ok (ts ++ .quoted quote (escaped quote body) :: us) := by
  obtain ⟨b, gap', rfl⟩ := List.exists_cons_of_ne_nil hne
  rw [List.append_assoc]
  apply lex_append (hgap b List.mem_cons_self) hcs
  exact lex_blanks hgap (List.cons_ne_nil _ _) (lex_literal hquote body hrest)

end Literal

/-! ## The law -/

/-- Between two texts, with blanks around it, a literal is one token; the texts keep the tokens that
they have alone, and the literal is read as the text that it quotes. -/
theorem a_literal_is_read_as_what_it_quotes {quote : Char} (hquote : quote = '\'' ∨ quote = '"')
    (s : String) {before after : String} {ts us : List Token} (hbefore : tokenize before = .ok ts)
    (hafter : tokenize after = .ok us) :
    tokenize (before ++ " " ++ literal quote s ++ " " ++ after) =
        .ok (ts ++ .quoted quote (escaped quote s.toList) :: us) ∧
      (Token.quoted quote (escaped quote s.toList)).lexeme = literal quote s ∧
      ∀ rest, readPrimary (.quoted quote (escaped quote s.toList) :: rest) =
        .ok (.lit (.text s), rest) := by
  have hline : quote ≠ '\n' := by rcases hquote with rfl | rfl <;> decide
  have hblank : isBlank quote = false := by rcases hquote with rfl | rfl <;> decide
  have hspace : isBlank ' ' = true := by decide
  rw [tokenize_eq_ok] at hbefore hafter ⊢
  refine ⟨?_, rfl, fun rest => ?_⟩
  · obtain ⟨bs, hbs, hsplit⟩ := exists_lastBlanks before.toList
    have hgap : ∀ b ∈ bs ++ [' '], isBlank b = true := by
      rw [List.forall_mem_append]
      exact ⟨hbs, by simpa using hspace⟩
    -- the last mark of the literal is no blank, so only what comes after it loses blanks
    have hlast : dropLastBlanks (before ++ " " ++ literal quote s ++ " " ++ after).toList =
        dropLastBlanks before.toList ++ (bs ++ [' ']) ++ quote ::
          (escaped quote s.toList ++ quote :: dropLastBlanks (' ' :: after.toList)) := by
      have hchars : (before ++ " " ++ literal quote s ++ " " ++ after).toList =
          (dropLastBlanks before.toList ++ (bs ++ [' ']) ++ quote :: escaped quote s.toList) ++
            quote :: ' ' :: after.toList := by
        simp only [String.toList_append, literal, String.toList_ofList]
        nth_rewrite 1 [hsplit]
        simp
      rw [hchars, dropLastBlanks_append_cons hblank]
      simp
    rw [hlast]
    exact lex_around_literal hquote s.toList hgap (by simp) hbefore
      (lex_dropLastBlanks_cons hspace hafter)
  · rw [readPrimary_quoted, unescape_escaped hline, String.ofList_toList]

/-- `branch == '…' && fork`, where what is quoted would end the literal and go on with `|| true`, if
its quotation mark and its backslash were not escaped. -/
theorem a_quoted_quotation_mark_stays_in_its_literal :
    tokenize ("branch ==" ++ " " ++ literal '\'' "\\' || true\n" ++ " " ++ "&& fork") =
        .ok ([.name ["branch"], .mark .eq] ++
          .quoted '\'' (escaped '\'' "\\' || true\n".toList) :: [.mark .and, .name ["fork"]]) ∧
      literal '\'' "\\' || true\n" = "'\\\\\\' || true\n'" := by
  have hbefore : tokenize "branch ==" = .ok [.name ["branch"], .mark .eq] := by
    decide +kernel
  have hafter : tokenize "&& fork" = .ok [.mark .and, .name ["fork"]] := by
    decide +kernel
  exact ⟨(a_literal_is_read_as_what_it_quotes (Or.inl rfl) _ hbefore hafter).1, by decide⟩

end GatedPipeline.Condition
