-- The tokens of a condition: marks, quoted texts, numbers and names. Blanks
-- before a token are passed over, and each token is as long as it can be.
import GatedPipeline.Text.Blank
import GatedPipeline.Text.Digit
import GatedPipeline.Text.Find
namespace GatedPipeline.Condition
open GatedPipeline.Text

/-! ## Tokens -/

/-- The marks of the language. -/
inductive Mark where
  | or | and | eq | ne | le | ge | lt | gt | not
  | openParen | closeParen | openBracket | closeBracket | comma
  deriving DecidableEq, Repr

/-- The spelling of a mark. -/
def Mark.lexeme : Mark → String
  | .or => "||" | .and => "&&" | .eq => "==" | .ne => "!=" | .le => "<=" | .ge => ">="
  | .lt => "<" | .gt => ">" | .not => "!" | .openParen => "(" | .closeParen => ")"
  | .openBracket => "[" | .closeBracket => "]" | .comma => ","

/-- One token. -/
inductive Token where
  | mark (m : Mark)
  /-- A text between two quotation marks, with its backslashes as written. -/
  | quoted (quote : Char) (body : List Char)
  /-- A whole number, and the digits after its point if it has one. -/
  | number (whole : List Char) (fraction : Option (List Char))
  /-- A name: its parts with points between them. -/
  | name (parts : List String)
  deriving DecidableEq, Repr

/-- The spelling of a token. -/
def Token.lexeme : Token → String
  | .mark m => m.lexeme
  | .quoted quote body => String.ofList (quote :: body ++ [quote])
  | .number whole none => String.ofList whole
  | .number whole (some fraction) => String.ofList (whole ++ '.' :: fraction)
  | .name parts => ".".intercalate parts

/-! ## Scanning one token

Each scanner gives what it read and the characters after it. -/

/-- The mark at the start. Of two marks the longer one is read. -/
def scanMark? : List Char → Option (Mark × List Char)
  | '|' :: '|' :: r => some (.or, r)
  | '&' :: '&' :: r => some (.and, r)
  | '=' :: '=' :: r => some (.eq, r)
  | '!' :: '=' :: r => some (.ne, r)
  | '<' :: '=' :: r => some (.le, r)
  | '>' :: '=' :: r => some (.ge, r)
  | '<' :: r => some (.lt, r)
  | '>' :: r => some (.gt, r)
  | '!' :: r => some (.not, r)
  | '(' :: r => some (.openParen, r)
  | ')' :: r => some (.closeParen, r)
  | '[' :: r => some (.openBracket, r)
  | ']' :: r => some (.closeBracket, r)
  | ',' :: r => some (.comma, r)
  | _ => none

/-- The body of a quoted text up to its closing quotation mark. A backslash takes the next
character with it; that may not be a line break. -/
def scanBody? (quote : Char) : List Char → Option (List Char × List Char)
  | [] => none
  | [c] => if c = quote then some ([], []) else none
  | c :: d :: r =>
    if c = quote then some ([], d :: r)
    else if c = '\\' then
      if d = '\n' then none else (scanBody? quote r).map fun (body, rest) => (c :: d :: body, rest)
    else (scanBody? quote (d :: r)).map fun (body, rest) => (c :: body, rest)

/-- A letter or an underscore: what a name starts with. -/
def isNameStart (c : Char) : Bool := c.isAlpha || c = '_'

/-- What the later characters of a name's part may be. -/
def isNameChar (c : Char) : Bool := c.isAlphanum || c = '_' || c = '-'

/-- A run of digits may not touch a letter: then its last digit is given back, and a run of one
digit is none. -/
def giveBack? (digits rest : List Char) : Option (List Char × List Char) :=
  if rest.head?.any isNameStart then
    match digits.getLast? with
    | some d => if digits.length < 2 then none else some (digits.dropLast, d :: rest)
    | none => none
  else some (digits, rest)

/-- The number at the start. Without a digit after it, a point is no part of the number. -/
def scanNumber? (cs : List Char) : Option ((List Char × Option (List Char)) × List Char) :=
  let whole := cs.takeWhile isDigit
  let rest := cs.dropWhile isDigit
  if whole.isEmpty then none
  else match rest with
    | '.' :: r =>
      let fraction := r.takeWhile isDigit
      if fraction.isEmpty then some ((whole, none), rest)
      else match giveBack? fraction (r.dropWhile isDigit) with
        | some (fraction, after) => some ((whole, some fraction), after)
        | none => some ((whole, none), rest)
    | _ => (giveBack? whole rest).map fun (whole, after) => ((whole, none), after)

/-- The further parts of a name, each after a point. -/
def scanParts : List Char → List String × List Char
  | '.' :: r =>
    let part := r.takeWhile isNameChar
    if part.isEmpty then ([], '.' :: r)
    else
      let (parts, after) := scanParts (r.dropWhile isNameChar)
      (String.ofList part :: parts, after)
  | r => ([], r)
termination_by cs => cs.length
decreasing_by
  have := (List.dropWhile_suffix isNameChar (l := r)).length_le
  simp only [List.length_cons]; omega

/-- The name at the start. -/
def scanName? : List Char → Option (List String × List Char)
  | [] => none
  | c :: r =>
    if isNameStart c then
      let (parts, after) := scanParts (r.dropWhile isNameChar)
      some (String.ofList (c :: r.takeWhile isNameChar) :: parts, after)
    else none

/-- The token at the start, which no blank stands before. -/
def scan? (cs : List Char) : Option (Token × List Char) :=
  match scanMark? cs with
  | some (m, rest) => some (.mark m, rest)
  | none =>
    match cs with
    | [] => none
    | c :: r =>
      if c = '\'' || c = '"' then
        (scanBody? c r).map fun (body, rest) => (.quoted c body, rest)
      else match scanNumber? cs with
        | some ((whole, fraction), rest) => some (.number whole fraction, rest)
        | none => (scanName? cs).map fun (parts, rest) => (.name parts, rest)

/-! ## A token takes at least one character -/

theorem scanMark?_shorter {cs rest : List Char} {m : Mark} (h : scanMark? cs = some (m, rest)) :
    rest.length < cs.length := by
  unfold scanMark? at h
  split at h <;> simp only [Option.some.injEq, Prod.mk.injEq, reduceCtorEq] at h <;>
    (obtain ⟨-, rfl⟩ := h; simp only [List.length_cons]; omega)

theorem scanBody?_shorter {quote : Char} {cs body rest : List Char}
    (h : scanBody? quote cs = some (body, rest)) : rest.length < cs.length := by
  fun_induction scanBody? quote cs generalizing body with
  | case1 => simp at h
  | case2 => simp at h; simp [← h.2]
  | case3 => simp at h
  | case4 => simp at h; simp [← h.2]
  | case5 => simp at h
  | case6 d r _ _ ih =>
    obtain ⟨⟨b, t⟩, hb, he⟩ := Option.map_eq_some_iff.1 h
    simp only [Prod.mk.injEq] at he
    have := ih (he.2 ▸ hb)
    simp only [List.length_cons]; omega
  | case7 c d r _ _ ih =>
    obtain ⟨⟨b, t⟩, hb, he⟩ := Option.map_eq_some_iff.1 h
    simp only [Prod.mk.injEq] at he
    have := ih (he.2 ▸ hb)
    simp only [List.length_cons] at this ⊢; omega

theorem giveBack?_length {digits rest ds after : List Char}
    (h : giveBack? digits rest = some (ds, after)) :
    ds.length + after.length = digits.length + rest.length ∧ (digits ≠ [] → ds ≠ []) := by
  unfold giveBack? at h
  split at h
  · split at h
    · split at h
      · simp at h
      · simp only [Option.some.injEq, Prod.mk.injEq] at h
        obtain ⟨rfl, rfl⟩ := h
        refine ⟨by simp only [List.length_dropLast, List.length_cons]; omega, fun _ he => ?_⟩
        have := congrArg List.length he
        simp at this; omega
    · simp at h
  · simp only [Option.some.injEq, Prod.mk.injEq] at h
    obtain ⟨rfl, rfl⟩ := h
    exact ⟨rfl, id⟩

theorem length_takeWhile_add_dropWhile (p : Char → Bool) (cs : List Char) :
    (cs.takeWhile p).length + (cs.dropWhile p).length = cs.length := by
  rw [← List.length_append, List.takeWhile_append_dropWhile]

theorem scanNumber?_shorter {cs rest : List Char} {n : List Char × Option (List Char)}
    (h : scanNumber? cs = some (n, rest)) : rest.length < cs.length := by
  have hlen := length_takeWhile_add_dropWhile isDigit cs
  unfold scanNumber? at h
  simp only at h
  split at h
  · simp at h
  · rename_i hne
    have hpos : 0 < (cs.takeWhile isDigit).length := by
      rcases hw : cs.takeWhile isDigit with _ | _
      · simp [hw] at hne
      · simp
    split at h
    · rename_i r hr
      have hfrac := length_takeWhile_add_dropWhile isDigit r
      have hr' := congrArg List.length hr
      simp only [List.length_cons] at hr'
      split at h
      · simp only [Option.some.injEq, Prod.mk.injEq] at h
        rw [← h.2]; omega
      · split at h
        · rename_i hg
          have := (giveBack?_length hg).1
          simp only [Option.some.injEq, Prod.mk.injEq] at h
          rw [← h.2]; omega
        · simp only [Option.some.injEq, Prod.mk.injEq] at h
          rw [← h.2]; omega
    · obtain ⟨⟨ds, after⟩, hg, he⟩ := Option.map_eq_some_iff.1 h
      simp only [Prod.mk.injEq] at he
      obtain ⟨hl, hnil⟩ := giveBack?_length hg
      have : 0 < ds.length := List.length_pos_iff.2 (hnil (List.length_pos_iff.1 hpos))
      rw [← he.2]; omega

theorem scanParts_length_le (cs : List Char) : (scanParts cs).2.length ≤ cs.length := by
  fun_induction scanParts cs with
  | case1 => simp
  | case2 r _ _ parts after hp ih =>
    have := (List.dropWhile_suffix isNameChar (l := r)).length_le
    simp only [hp] at ih
    simp only [List.length_cons]; omega
  | case3 => simp

theorem scanName?_shorter {cs rest : List Char} {parts : List String}
    (h : scanName? cs = some (parts, rest)) : rest.length < cs.length := by
  unfold scanName? at h
  split at h
  · simp at h
  · split at h
    · rename_i c r _
      simp only [Option.some.injEq, Prod.mk.injEq] at h
      have h1 := scanParts_length_le (r.dropWhile isNameChar)
      have h2 := (List.dropWhile_suffix isNameChar (l := r)).length_le
      rw [← h.2]
      simp only [List.length_cons]; omega
    · simp at h

theorem scan?_shorter {cs rest : List Char} {t : Token} (h : scan? cs = some (t, rest)) :
    rest.length < cs.length := by
  unfold scan? at h
  split at h
  · rename_i hm
    simp only [Option.some.injEq, Prod.mk.injEq] at h
    rw [← h.2]; exact scanMark?_shorter hm
  · split at h
    · simp at h
    · split at h
      · obtain ⟨⟨b, t⟩, hb, he⟩ := Option.map_eq_some_iff.1 h
        simp only [Prod.mk.injEq] at he
        rw [← he.2]
        have := scanBody?_shorter hb
        simp only [List.length_cons]; omega
      · split at h
        · rename_i hn
          simp only [Option.some.injEq, Prod.mk.injEq] at h
          rw [← h.2]; exact scanNumber?_shorter hn
        · obtain ⟨⟨b, t⟩, hb, he⟩ := Option.map_eq_some_iff.1 h
          simp only [Prod.mk.injEq] at he
          rw [← he.2]; exact scanName?_shorter hb

/-! ## All tokens -/

/-- The tokens of a text that does not end in a blank, or the part that could not be read,
from the blanks before it on. -/
def lex (cs : List Char) : Except (List Char) (List Token) :=
  if cs.isEmpty then .ok []
  else match _h : scan? (dropBlanks cs) with
    | none => .error cs
    | some (t, rest) =>
      match lex rest with
      | .ok ts => .ok (t :: ts)
      | .error unread => .error unread
termination_by cs.length
decreasing_by exact Nat.lt_of_lt_of_le (scan?_shorter _h) (dropBlanks_length_le cs)

/-- The tokens of an expression, or the position of the first character that belongs to none. -/
def tokenize (expression : String) : Except Nat (List Token) :=
  let text := dropLastBlanks expression.toList
  (lex text).mapError fun unread => text.length - unread.length

end GatedPipeline.Condition
