-- Conditions are read by their grammar. What is read is written by a derivation,
-- what a derivation writes is read, and whatever else the tokens are, there is a
-- fault in their syntax.
import GatedPipeline.Proofs.Condition.Grammar
namespace GatedPipeline.Condition
open GatedPipeline.Decimal

/-! ## What is read, and what is left

Each reader gives what the parser gives, without the proof that fewer tokens are left. An equation
for each of its cases stands in for the parser from here on. -/

def Parsed.pair {α : Type} {n : Nat} (p : Parsed α n) : α × List Token := (p.result, p.rest)

section Readers

variable (left : Expr) (ts : List Token)

def readOr : Except ParseFault (Expr × List Token) := (parseOr ts).map Parsed.pair

def readOrTail : Except ParseFault (Expr × List Token) := (parseOrTail left ts).map Parsed.pair

def readAnd : Except ParseFault (Expr × List Token) := (parseAnd ts).map Parsed.pair

def readAndTail : Except ParseFault (Expr × List Token) := (parseAndTail left ts).map Parsed.pair

def readNot : Except ParseFault (Expr × List Token) := (parseNot ts).map Parsed.pair

def readComparison : Except ParseFault (Expr × List Token) := (parseComparison ts).map Parsed.pair

def readPrimary : Except ParseFault (Expr × List Token) := (parsePrimary ts).map Parsed.pair

def readItems : Except ParseFault (List Expr × List Token) := (parseItems ts).map Parsed.pair

def readArgs : Except ParseFault (List Expr × List Token) := (parseArgs ts).map Parsed.pair

end Readers

variable {left : Expr} {ts : List Token}

theorem parseTokens_eq (ts : List Token) :
    parseTokens ts = (readOr ts).bind fun (e, rest) =>
      match rest with
      | [] => .ok e
      | t :: _ => .error (.unexpected t.lexeme) := by
  rw [parseTokens, readOr]
  rcases parseOr ts with fault | ⟨e, _ | ⟨t, rest⟩, h⟩ <;> rfl

theorem readOr_eq (ts : List Token) :
    readOr ts = (readAnd ts).bind fun (left, rest) => readOrTail left rest := by
  rw [readOr, parseOr, readAnd]
  rcases parseAnd ts with fault | ⟨left, rest, h⟩
  · rfl
  · simp only [Except.map, Except.bind, Parsed.pair, readOrTail]
    rcases parseOrTail left rest with fault | ⟨e, rest', h'⟩ <;> rfl

theorem readOrTail_or (left : Expr) (ts : List Token) :
    readOrTail left (.mark .or :: ts) =
      (readAnd ts).bind fun (right, rest) => readOrTail (.or left right) rest := by
  rw [readOrTail, parseOrTail, readAnd]
  rcases parseAnd ts with fault | ⟨right, rest, h⟩
  · rfl
  · simp only [Except.map, Except.bind, Parsed.pair, readOrTail]
    rcases parseOrTail (.or left right) rest with fault | ⟨e, rest', h'⟩ <;> rfl

theorem readOrTail_of_ne (h : ts.head? ≠ some (.mark .or)) : readOrTail left ts = .ok (left, ts) := by
  rw [readOrTail, parseOrTail]
  · rfl
  · rintro ts' rfl
    exact h rfl

theorem readAnd_eq (ts : List Token) :
    readAnd ts = (readNot ts).bind fun (left, rest) => readAndTail left rest := by
  rw [readAnd, parseAnd, readNot]
  rcases parseNot ts with fault | ⟨left, rest, h⟩
  · rfl
  · simp only [Except.map, Except.bind, Parsed.pair, readAndTail]
    rcases parseAndTail left rest with fault | ⟨e, rest', h'⟩ <;> rfl

theorem readAndTail_and (left : Expr) (ts : List Token) :
    readAndTail left (.mark .and :: ts) =
      (readNot ts).bind fun (right, rest) => readAndTail (.and left right) rest := by
  rw [readAndTail, parseAndTail, readNot]
  rcases parseNot ts with fault | ⟨right, rest, h⟩
  · rfl
  · simp only [Except.map, Except.bind, Parsed.pair, readAndTail]
    rcases parseAndTail (.and left right) rest with fault | ⟨e, rest', h'⟩ <;> rfl

theorem readAndTail_of_ne (h : ts.head? ≠ some (.mark .and)) :
    readAndTail left ts = .ok (left, ts) := by
  rw [readAndTail, parseAndTail]
  · rfl
  · rintro ts' rfl
    exact h rfl

theorem readNot_not (ts : List Token) :
    readNot (.mark .not :: ts) = (readNot ts).bind fun (e, rest) => .ok (.not e, rest) := by
  rw [readNot, parseNot, readNot]
  rcases parseNot ts with fault | ⟨e, rest, h⟩ <;> rfl

theorem readNot_of_ne (h : ts.head? ≠ some (.mark .not)) : readNot ts = readComparison ts := by
  rw [readNot, parseNot, readComparison]
  rintro ts' rfl
  exact h rfl

theorem readComparison_eq (ts : List Token) :
    readComparison ts = (readPrimary ts).bind fun (left, rest) =>
      match rest with
      | [] => .ok (left, [])
      | t :: rest =>
        match Relator.ofToken? t with
        | some o => (readPrimary rest).bind fun (right, rest) => .ok (o.expr left right, rest)
        | none => .ok (left, t :: rest) := by
  rw [readComparison, parseComparison, readPrimary]
  rcases parsePrimary ts with fault | ⟨left, _ | ⟨t, rest⟩, h⟩
  · rfl
  · rfl
  · simp only [Except.map, Except.bind, Parsed.pair, readPrimary, Relator.ofToken?]
    rcases comparison? t with _ | op
    · by_cases hin : t = .name ["in"]
      · simp only [hin, if_true]
        rcases parsePrimary rest with fault | ⟨right, rest', h'⟩ <;> rfl
      · simp only [hin, if_false]
    · dsimp only
      rcases parsePrimary rest with fault | ⟨right, rest', h'⟩ <;> rfl

theorem readPrimary_nil : readPrimary [] = .error .expectedToken := by
  rw [readPrimary, parsePrimary]
  rfl

theorem readPrimary_quoted (quote : Char) (body : List Char) (rest : List Token) :
    readPrimary (.quoted quote body :: rest) =
      .ok (.lit (.text (String.ofList (unescape body))), rest) := by
  rw [readPrimary, parsePrimary]
  rfl

theorem readPrimary_number (whole : List Char) (fraction : Option (List Char))
    (rest : List Token) : readPrimary (.number whole fraction :: rest) =
      (numberValue whole fraction).bind fun v => .ok (.lit v, rest) := by
  rw [readPrimary, parsePrimary]
  rcases numberValue whole fraction with fault | v <;> rfl

theorem readPrimary_group (ts : List Token) :
    readPrimary (.mark .openParen :: ts) = (readOr ts).bind fun (e, rest) =>
      match rest with
      | .mark .closeParen :: rest => .ok (e, rest)
      | _ => .error (.expected ")") := by
  rw [readPrimary, parsePrimary, readOr]
  rcases parseOr ts with fault | ⟨e, _ | ⟨m | _ | _ | _, rest⟩, h⟩
  case ok.cons.mark => cases m <;> rfl
  all_goals rfl

theorem readPrimary_list (ts : List Token) :
    readPrimary (.mark .openBracket :: ts) =
      (readItems ts).bind fun (items, rest) => .ok (.list items, rest) := by
  rw [readPrimary, parsePrimary, readItems]
  rcases parseItems ts with fault | ⟨items, rest, h⟩ <;> rfl

theorem readPrimary_keyword {parts : List String} {v : Value} (h : keyword? parts = some v)
    (rest : List Token) : readPrimary (.name parts :: rest) = .ok (.lit v, rest) := by
  -- What follows a keyword does not count, not even a parenthesis.
  by_cases hcall : ∃ ts, rest = .mark .openParen :: ts
  · obtain ⟨ts, rfl⟩ := hcall
    rw [readPrimary, parsePrimary]
    simp only [h]
    rfl
  · rw [readPrimary, parsePrimary]
    · simp only [h]
      rfl
    · rintro ts rfl
      exact hcall ⟨ts, rfl⟩

theorem readPrimary_call {parts : List String} (h : keyword? parts = none) (ts : List Token) :
    readPrimary (.name parts :: .mark .openParen :: ts) = (calledFunction parts).bind fun f =>
      (readArgs ts).bind fun (args, rest) => .ok (.call f args, rest) := by
  rw [readPrimary, parsePrimary, readArgs]
  simp only [h]
  rcases calledFunction parts with fault | f
  · rfl
  · rcases parseArgs ts with fault | ⟨args, rest, h⟩ <;> rfl

theorem readPrimary_ref {parts : List String} (h : keyword? parts = none) {rest : List Token}
    (hr : EndsPrimary rest) : readPrimary (.name parts :: rest) =
      (referenceOf parts).bind fun r => .ok (.ref r, rest) := by
  rw [readPrimary, parsePrimary]
  · simp only [h]
    rcases referenceOf parts with fault | r <;> rfl
  · rintro ts' rfl
    exact hr rfl

theorem readPrimary_mark {m : Mark} (h : (Token.mark m).isFirst = false) (ts : List Token) :
    readPrimary (.mark m :: ts) = .error (.unexpected m.lexeme) := by
  rw [readPrimary, parsePrimary]
  · rfl
  · rintro rfl
    cases h
  · rintro rfl
    cases h

theorem readItems_close (ts : List Token) :
    readItems (.mark .closeBracket :: ts) = .ok ([], ts) := by
  rw [readItems, parseItems]
  rfl

theorem readItems_of_ne (h : ts.head? ≠ some (.mark .closeBracket)) :
    readItems ts = (readPrimary ts).bind fun (item, rest) =>
      match rest with
      | .mark .closeBracket :: rest => .ok ([item], rest)
      | .mark .comma :: rest =>
        (readItems rest).bind fun (items, rest) => .ok (item :: items, rest)
      | _ => .error (.expected ",") := by
  rw [readItems, parseItems, readPrimary]
  · rcases parsePrimary ts with fault | ⟨item, _ | ⟨m | _ | _ | _, rest⟩, h⟩
    case ok.cons.mark =>
      cases m
      case comma =>
        simp only [Except.map, Except.bind, Parsed.pair, readItems]
        rcases parseItems rest with fault | ⟨items, rest', h'⟩ <;> rfl
      all_goals rfl
    all_goals rfl
  · rintro ts' rfl
    exact h rfl

theorem readArgs_close (ts : List Token) :
    readArgs (.mark .closeParen :: ts) = .ok ([], ts) := by
  rw [readArgs, parseArgs]
  rfl

theorem readArgs_of_ne (h : ts.head? ≠ some (.mark .closeParen)) :
    readArgs ts = (readOr ts).bind fun (arg, rest) =>
      match rest with
      | .mark .closeParen :: rest => .ok ([arg], rest)
      | .mark .comma :: rest => (readArgs rest).bind fun (args, rest) => .ok (arg :: args, rest)
      | _ => .error (.expected ",") := by
  rw [readArgs, parseArgs, readOr]
  · rcases parseOr ts with fault | ⟨arg, _ | ⟨m | _ | _ | _, rest⟩, h⟩
    case ok.cons.mark =>
      cases m
      case comma =>
        simp only [Except.map, Except.bind, Parsed.pair, readArgs]
        rcases parseArgs rest with fault | ⟨args, rest', h'⟩ <;> rfl
      all_goals rfl
    all_goals rfl
  · rintro ts' rfl
    exact h rfl

/-! ## What a derivation writes is read -/

/-- What one token writes is read. -/
theorem readPrimary_atom (a : Atom) {rest : List Token} (hr : EndsPrimary rest) :
    readPrimary (a.token :: rest) = .ok (a.expr, rest) := by
  cases a with
  | text quote body => exact readPrimary_quoted quote body rest
  | number whole fraction v read =>
    refine (readPrimary_number whole fraction rest).trans ?_
    rw [read]
    rfl
  | keyword k => exact readPrimary_keyword k.keyword?_name rest
  | ref r =>
    have hkey : keyword? (r.root.name :: r.path) = none := r.root.keyword?_name r.path
    refine (readPrimary_ref hkey hr).trans ?_
    rw [referenceOf, r.root.ofName?_name]
    rfl

-- By induction on the derivation. What follows it is arbitrary, but cannot make it longer.
mutual

theorem readOr_tokens (d : Disjunction) {rest : List Token} (hr : EndsDisjunction rest) :
    readOr (d.tokens ++ rest) = .ok (d.expr, rest) := by
  obtain ⟨c, cs⟩ := d
  rw [Disjunction.tokens, List.append_assoc, readOr_eq, readAnd_tokens c (cs.ends hr)]
  exact readOrTail_tokens cs c.expr hr
termination_by structural d

theorem readOrTail_tokens (cs : Disjuncts) (left : Expr) {rest : List Token}
    (hr : EndsDisjunction rest) :
    readOrTail left (cs.tokens ++ rest) = .ok (cs.joined left, rest) := by
  cases cs with
  | nil => exact readOrTail_of_ne hr.ended
  | cons c cs =>
    rw [Disjuncts.tokens, List.cons_append, List.append_assoc, readOrTail_or,
      readAnd_tokens c (cs.ends hr)]
    exact readOrTail_tokens cs (.or left c.expr) hr
termination_by structural cs

theorem readAnd_tokens (c : Conjunction) {rest : List Token} (hr : EndsConjunction rest) :
    readAnd (c.tokens ++ rest) = .ok (c.expr, rest) := by
  obtain ⟨n, ns⟩ := c
  rw [Conjunction.tokens, List.append_assoc, readAnd_eq, readNot_tokens n (ns.ends hr)]
  exact readAndTail_tokens ns n.expr hr
termination_by structural c

theorem readAndTail_tokens (ns : Conjuncts) (left : Expr) {rest : List Token}
    (hr : EndsConjunction rest) :
    readAndTail left (ns.tokens ++ rest) = .ok (ns.joined left, rest) := by
  cases ns with
  | nil => exact readAndTail_of_ne hr.alone
  | cons n ns =>
    rw [Conjuncts.tokens, List.cons_append, List.append_assoc, readAndTail_and,
      readNot_tokens n (ns.ends hr)]
    exact readAndTail_tokens ns (.and left n.expr) hr
termination_by structural ns

theorem readNot_tokens (n : Negation) {rest : List Token} (hr : EndsCompared rest) :
    readNot (n.tokens ++ rest) = .ok (n.expr, rest) := by
  cases n with
  | not n =>
    rw [Negation.tokens, List.cons_append, readNot_not, readNot_tokens n hr]
    rfl
  | plain c =>
    refine (readNot_of_ne fun h => ?_).trans (readComparison_tokens c hr)
    obtain ⟨ts, hts⟩ := List.head?_eq_some_iff.1 h
    exact append_ne_cons c.tokens_eq (by simp [Token.isFirst]) rest ts hts
termination_by structural n

theorem readComparison_tokens (c : Compared) {rest : List Token} (hr : EndsCompared rest) :
    readComparison (c.tokens ++ rest) = .ok (c.expr, rest) := by
  cases c with
  | plain p =>
    rw [Compared.tokens, readComparison_eq, readPrimary_tokens p hr.primary]
    rcases rest with _ | ⟨t, rest⟩
    · rfl
    · have hnone : Relator.ofToken? t = none := by
        rcases ho : Relator.ofToken? t with _ | o
        · rfl
        · exact absurd (congrArg some (Relator.token_of_ofToken? ho).symm) (hr.unrelated o)
      simp only [Except.bind, hnone]
      rfl
  | rel l o r =>
    rw [Compared.tokens, List.append_assoc, List.cons_append, readComparison_eq,
      readPrimary_tokens l (endsPrimary_relator o _)]
    simp only [Except.bind, o.ofToken?_token, readPrimary_tokens r hr.primary]
    rfl
termination_by structural c

theorem readPrimary_tokens (p : Primary) {rest : List Token} (hr : EndsPrimary rest) :
    readPrimary (p.tokens ++ rest) = .ok (p.expr, rest) := by
  cases p with
  | atom a => exact readPrimary_atom a hr
  | group d =>
    rw [Primary.tokens, List.cons_append, List.append_assoc, readPrimary_group,
      List.singleton_append, readOr_tokens d (endsDisjunction_stop rfl _)]
    rfl
  | call f args =>
    rw [Primary.tokens, List.cons_append, List.cons_append, List.append_assoc,
      readPrimary_call f.keyword?_name, calledFunction_name]
    simp only [Except.bind, List.singleton_append, readArgs_tokens args]
    rfl
  | list items =>
    rw [Primary.tokens, List.cons_append, List.append_assoc, readPrimary_list,
      List.singleton_append, readItems_tokens items]
    rfl
termination_by structural p

theorem readArgs_tokens (args : Arguments) {rest : List Token} :
    readArgs (args.tokens ++ .mark .closeParen :: rest) = .ok (args.exprs, rest) := by
  have hopen : ∀ (d : Disjunction) (ts : List Token),
      (d.tokens ++ ts).head? ≠ some (.mark .closeParen) := by
    intro d ts h
    obtain ⟨us, hus⟩ := List.head?_eq_some_iff.1 h
    exact append_ne_cons d.tokens_eq (by simp [Token.isFirst]) ts us hus
  cases args with
  | none => exact readArgs_close rest
  | last d =>
    rw [Arguments.tokens, readArgs_of_ne (hopen d _), readOr_tokens d (endsDisjunction_stop rfl _)]
    rfl
  | more d args =>
    rw [Arguments.tokens, List.append_assoc, List.cons_append, readArgs_of_ne (hopen d _),
      readOr_tokens d (endsDisjunction_stop rfl _)]
    simp only [Except.bind, readArgs_tokens args]
    rfl
termination_by structural args

theorem readItems_tokens (items : Items) {rest : List Token} :
    readItems (items.tokens ++ .mark .closeBracket :: rest) = .ok (items.exprs, rest) := by
  have hopen : ∀ (p : Primary) (ts : List Token),
      (p.tokens ++ ts).head? ≠ some (.mark .closeBracket) := by
    intro p ts h
    obtain ⟨us, hus⟩ := List.head?_eq_some_iff.1 h
    exact append_ne_cons p.tokens_eq (by simp [Token.isFirst]) ts us hus
  cases items with
  | none => exact readItems_close rest
  | last p =>
    rw [Items.tokens, readItems_of_ne (hopen p _),
      readPrimary_tokens p (endsDisjunction_stop rfl _).primary]
    rfl
  | more p items =>
    rw [Items.tokens, List.append_assoc, List.cons_append, readItems_of_ne (hopen p _),
      readPrimary_tokens p (endsDisjunction_stop rfl _).primary]
    simp only [Except.bind, readItems_tokens items]
    rfl
termination_by structural items

end

/-! ## What is read is derived, and what is not derived is at fault -/

/-- A fault of the syntax, and not of a number. -/
def ParseFault.isSyntax : ParseFault → Bool
  | .tooManyDigits _ => false
  | _ => true

/-- What is at fault in some tokens: their syntax, or a whole number among them that has more digits
than can be read. -/
def Faulty (ts : List Token) (fault : ParseFault) : Prop :=
  fault.isSyntax = true ∨ ∃ whole, .number whole none ∈ ts ∧ maxDigits < whole.length ∧
    fault = .tooManyDigits whole.length

/-- What comes of reading some tokens: something made as it has to be, or a fault in them. -/
inductive Reads {α : Type} (ts : List Token) (made : α → List Token → Prop) :
    Except ParseFault (α × List Token) → Prop
  | made {x : α} {rest : List Token} (h : made x rest) : Reads ts made (.ok (x, rest))
  | fault {fault : ParseFault} (h : Faulty ts fault) : Reads ts made (.error fault)

section Reads

variable {α β : Type} {us rest : List Token} {made : α → List Token → Prop}
  {made' : β → List Token → Prop} {x : Except ParseFault (α × List Token)}

theorem Faulty.among {fault : ParseFault} (h : Faulty us fault) (among : us ⊆ ts) :
    Faulty ts fault :=
  h.imp_right fun ⟨whole, hm, hlong, he⟩ => ⟨whole, among hm, hlong, he⟩

/-- After something is read, reading goes on. -/
theorem Reads.bind {next : α × List Token → Except ParseFault (β × List Token)}
    (h : Reads us made x) (among : us ⊆ ts)
    (hnext : ∀ a rest, made a rest → Reads ts made' (next (a, rest))) :
    Reads ts made' (x.bind next) := by
  cases h with
  | made h => exact hnext _ _ h
  | fault h => exact .fault (h.among among)

/-- What was read is part of something larger. -/
theorem Reads.part {made' : α → List Token → Prop} (h : Reads us made x) (among : us ⊆ ts)
    (himp : ∀ a rest, made a rest → made' a rest) : Reads ts made' x := by
  cases h with
  | made h => exact .made (himp _ _ h)
  | fault h => exact .fault (h.among among)

theorem faulty_of_numberValue {whole : List Char} {fraction : Option (List Char)}
    {fault : ParseFault} (hm : .number whole fraction ∈ ts)
    (h : numberValue whole fraction = .error fault) : Faulty ts fault := by
  rcases fraction with _ | fraction
  · rw [numberValue, wholeOfDigits] at h
    by_cases hlong : whole.length > maxDigits
    · rw [if_pos hlong] at h
      cases h
      exact Or.inr ⟨whole, hm, hlong, rfl⟩
    · rw [if_neg hlong] at h
      cases h
  · cases h

theorem syntaxFault {fault : ParseFault} (h : fault.isSyntax = true) :
    Reads ts made (.error fault) := .fault (Or.inl h)

theorem among_append (h : us ++ rest = ts) : rest ⊆ ts := h ▸ List.subset_append_right us rest

theorem shorter_append {P : Token → Prop} (hus : ∃ t vs, us = t :: vs ∧ P t)
    (h : us ++ rest = ts) : rest.length < ts.length := by
  obtain ⟨t, vs, rfl, _⟩ := hus
  rw [← h, List.length_append, List.length_cons]
  omega

end Reads

-- The recursion is the parser's own: fewer tokens, or as many and a part that binds more tightly.
mutual

theorem reads_or (ts : List Token) :
    Reads ts (fun e rest => ∃ d : Disjunction, d.expr = e ∧ d.tokens ++ rest = ts) (readOr ts) := by
  rw [readOr_eq]
  refine (reads_and ts).bind (List.Subset.refl ts) ?_
  rintro _ rest ⟨c, rfl, hts⟩
  have hshort := shorter_append c.tokens_eq hts
  refine (reads_orTail c.expr rest).part (among_append hts) ?_
  rintro _ rest' ⟨cs, rfl, hrest⟩
  exact ⟨.mk c cs, rfl, by rw [Disjunction.tokens, List.append_assoc, hrest, hts]⟩
termination_by (ts.length, 6)

theorem reads_orTail (left : Expr) (ts : List Token) :
    Reads ts (fun e rest => ∃ cs : Disjuncts, cs.joined left = e ∧ cs.tokens ++ rest = ts)
      (readOrTail left ts) := by
  by_cases h : ts.head? = some (.mark .or)
  · obtain ⟨us, rfl⟩ := List.head?_eq_some_iff.1 h
    rw [readOrTail_or]
    refine (reads_and us).bind (List.subset_cons_self _ us) ?_
    rintro _ rest ⟨c, rfl, hus⟩
    have hshort := shorter_append c.tokens_eq hus
    refine (reads_orTail (.or left c.expr) rest).part
      (List.subset_cons_of_subset _ (among_append hus)) ?_
    rintro _ rest' ⟨cs, rfl, hrest⟩
    exact ⟨.cons c cs, rfl,
      by rw [Disjuncts.tokens, List.cons_append, List.append_assoc, hrest, hus]⟩
  · rw [readOrTail_of_ne h]
    exact .made ⟨.nil, rfl, rfl⟩
termination_by (ts.length, 0)

theorem reads_and (ts : List Token) :
    Reads ts (fun e rest => ∃ c : Conjunction, c.expr = e ∧ c.tokens ++ rest = ts)
      (readAnd ts) := by
  rw [readAnd_eq]
  refine (reads_not ts).bind (List.Subset.refl ts) ?_
  rintro _ rest ⟨n, rfl, hts⟩
  have hshort := shorter_append n.tokens_eq hts
  refine (reads_andTail n.expr rest).part (among_append hts) ?_
  rintro _ rest' ⟨ns, rfl, hrest⟩
  exact ⟨.mk n ns, rfl, by rw [Conjunction.tokens, List.append_assoc, hrest, hts]⟩
termination_by (ts.length, 5)

theorem reads_andTail (left : Expr) (ts : List Token) :
    Reads ts (fun e rest => ∃ ns : Conjuncts, ns.joined left = e ∧ ns.tokens ++ rest = ts)
      (readAndTail left ts) := by
  by_cases h : ts.head? = some (.mark .and)
  · obtain ⟨us, rfl⟩ := List.head?_eq_some_iff.1 h
    rw [readAndTail_and]
    refine (reads_not us).bind (List.subset_cons_self _ us) ?_
    rintro _ rest ⟨n, rfl, hus⟩
    have hshort := shorter_append n.tokens_eq hus
    refine (reads_andTail (.and left n.expr) rest).part
      (List.subset_cons_of_subset _ (among_append hus)) ?_
    rintro _ rest' ⟨ns, rfl, hrest⟩
    exact ⟨.cons n ns, rfl,
      by rw [Conjuncts.tokens, List.cons_append, List.append_assoc, hrest, hus]⟩
  · rw [readAndTail_of_ne h]
    exact .made ⟨.nil, rfl, rfl⟩
termination_by (ts.length, 0)

theorem reads_not (ts : List Token) :
    Reads ts (fun e rest => ∃ n : Negation, n.expr = e ∧ n.tokens ++ rest = ts) (readNot ts) := by
  by_cases h : ts.head? = some (.mark .not)
  · obtain ⟨us, rfl⟩ := List.head?_eq_some_iff.1 h
    rw [readNot_not]
    refine (reads_not us).bind (List.subset_cons_self _ us) ?_
    rintro _ rest ⟨n, rfl, hus⟩
    exact .made ⟨.not n, rfl, by rw [Negation.tokens, List.cons_append, hus]⟩
  · rw [readNot_of_ne h]
    refine (reads_comparison ts).part (List.Subset.refl ts) ?_
    rintro _ rest ⟨c, rfl, hts⟩
    exact ⟨.plain c, rfl, hts⟩
termination_by (ts.length, 4)

theorem reads_comparison (ts : List Token) :
    Reads ts (fun e rest => ∃ c : Compared, c.expr = e ∧ c.tokens ++ rest = ts)
      (readComparison ts) := by
  rw [readComparison_eq]
  refine (reads_primary ts).bind (List.Subset.refl ts) ?_
  rintro _ rest ⟨l, rfl, hts⟩
  have hshort := shorter_append l.tokens_eq hts
  rcases rest with _ | ⟨t, rest⟩
  · exact .made ⟨.plain l, rfl, hts⟩
  · rcases ho : Relator.ofToken? t with _ | o
    · simp only [ho]
      exact .made ⟨.plain l, rfl, hts⟩
    · simp only [ho]
      obtain rfl := Relator.token_of_ofToken? ho
      have hless : rest.length < ts.length := Nat.lt_of_succ_lt hshort
      refine (reads_primary rest).bind
        (List.Subset.trans (List.subset_cons_self _ rest) (among_append hts)) ?_
      rintro _ rest' ⟨r, rfl, hrest⟩
      refine .made ⟨.rel l o r, rfl, ?_⟩
      rw [Compared.tokens, List.append_assoc, List.cons_append, hrest, hts]
termination_by (ts.length, 3)

theorem reads_primary (ts : List Token) :
    Reads ts (fun e rest => ∃ p : Primary, p.expr = e ∧ p.tokens ++ rest = ts)
      (readPrimary ts) := by
  rcases ts with _ | ⟨m | ⟨quote, body⟩ | ⟨whole, fraction⟩ | parts, ts⟩
  · rw [readPrimary_nil]
    exact syntaxFault rfl
  · by_cases hm : (Token.mark m).isFirst = true
    · have hopens : m = .openParen ∨ m = .openBracket := by
        cases m <;> simp_all [Token.isFirst]
      rcases hopens with rfl | rfl
      · rw [readPrimary_group]
        refine (reads_or ts).bind (List.subset_cons_self _ ts) ?_
        rintro _ rest ⟨d, rfl, hts⟩
        dsimp only
        split
        · refine .made ⟨.group d, rfl, ?_⟩
          simp only [Primary.tokens, List.cons_append, List.append_assoc, List.nil_append, hts]
        · exact syntaxFault rfl
      · rw [readPrimary_list]
        refine (reads_items ts).bind (List.subset_cons_self _ ts) ?_
        rintro _ rest ⟨items, rfl, hts⟩
        refine .made ⟨.list items, rfl, ?_⟩
        simp only [Primary.tokens, List.cons_append, List.append_assoc, List.nil_append, hts]
    · rw [readPrimary_mark (by simpa using hm)]
      exact syntaxFault rfl
  · rw [readPrimary_quoted]
    exact .made ⟨.atom (.text quote body), rfl, rfl⟩
  · rw [readPrimary_number]
    rcases hv : numberValue whole fraction with fault | v
    · exact .fault (faulty_of_numberValue List.mem_cons_self hv)
    · exact .made ⟨.atom (.number whole fraction v hv), rfl, rfl⟩
  · rcases hkey : keyword? parts with _ | v
    · by_cases hcall : ts.head? = some (.mark .openParen)
      · obtain ⟨us, rfl⟩ := List.head?_eq_some_iff.1 hcall
        rw [readPrimary_call hkey]
        rcases calledFunction_cases parts with ⟨f, rfl, hf⟩ | hf
        · rw [hf]
          change Reads _ _ ((readArgs us).bind fun (args, rest) => .ok (Expr.call f args, rest))
          refine (reads_args us).bind
            (List.subset_cons_of_subset _ (List.subset_cons_self _ us)) ?_
          rintro _ rest ⟨args, rfl, hus⟩
          refine .made ⟨.call f args, rfl, ?_⟩
          simp only [Primary.tokens, List.cons_append, List.append_assoc, List.nil_append, hus]
        · rw [hf]
          exact syntaxFault rfl
      · rw [readPrimary_ref hkey hcall]
        rcases referenceOf_cases parts with ⟨r, rfl, hr⟩ | ⟨name, hr⟩
        · rw [hr]
          exact .made ⟨.atom (.ref r), rfl, rfl⟩
        · rw [hr]
          exact syntaxFault rfl
    · rw [readPrimary_keyword hkey]
      obtain ⟨k, rfl, rfl⟩ := keyword_of_keyword? hkey
      exact .made ⟨.atom (.keyword k), rfl, rfl⟩
termination_by (ts.length, 2)

theorem reads_items (ts : List Token) :
    Reads ts (fun es rest => ∃ items : Items, items.exprs = es ∧
      items.tokens ++ .mark .closeBracket :: rest = ts) (readItems ts) := by
  by_cases h : ts.head? = some (.mark .closeBracket)
  · obtain ⟨us, rfl⟩ := List.head?_eq_some_iff.1 h
    rw [readItems_close]
    exact .made ⟨.none, rfl, rfl⟩
  · rw [readItems_of_ne h]
    refine (reads_primary ts).bind (List.Subset.refl ts) ?_
    rintro _ rest ⟨p, rfl, hts⟩
    have hshort := shorter_append p.tokens_eq hts
    dsimp only
    split
    · exact .made ⟨.last p, rfl, hts⟩
    · rename_i rest
      have hless : rest.length < ts.length := Nat.lt_of_succ_lt hshort
      refine (reads_items rest).bind
        (List.Subset.trans (List.subset_cons_self _ rest) (among_append hts)) ?_
      rintro _ rest' ⟨items, rfl, hrest⟩
      refine .made ⟨.more p items, rfl, ?_⟩
      rw [Items.tokens, List.append_assoc, List.cons_append, hrest, hts]
    · exact syntaxFault rfl
termination_by (ts.length, 3)

theorem reads_args (ts : List Token) :
    Reads ts (fun es rest => ∃ args : Arguments, args.exprs = es ∧
      args.tokens ++ .mark .closeParen :: rest = ts) (readArgs ts) := by
  by_cases h : ts.head? = some (.mark .closeParen)
  · obtain ⟨us, rfl⟩ := List.head?_eq_some_iff.1 h
    rw [readArgs_close]
    exact .made ⟨.none, rfl, rfl⟩
  · rw [readArgs_of_ne h]
    refine (reads_or ts).bind (List.Subset.refl ts) ?_
    rintro _ rest ⟨d, rfl, hts⟩
    have hshort := shorter_append d.tokens_eq hts
    dsimp only
    split
    · exact .made ⟨.last d, rfl, hts⟩
    · rename_i rest
      have hless : rest.length < ts.length := Nat.lt_of_succ_lt hshort
      refine (reads_args rest).bind
        (List.Subset.trans (List.subset_cons_self _ rest) (among_append hts)) ?_
      rintro _ rest' ⟨args, rfl, hrest⟩
      refine .made ⟨.more d args, rfl, ?_⟩
      rw [Arguments.tokens, List.append_assoc, List.cons_append, hrest, hts]
    · exact syntaxFault rfl
termination_by (ts.length, 7)

end

theorem Disjunction.parseTokens_tokens (d : Disjunction) : parseTokens d.tokens = .ok d.expr := by
  have hor := readOr_tokens d endsDisjunction_nil
  rw [List.append_nil] at hor
  rw [parseTokens_eq, hor]
  rfl

/-- A text is read as its tokens are derived. -/
theorem Disjunction.parse (d : Disjunction) {text : String} (hts : tokenize text = .ok d.tokens)
    (h : Text.isBlankText text = false) : Condition.parse text = .ok d.expr := by
  unfold Condition.parse
  rw [h, hts]
  exact d.parseTokens_tokens

/-! ## The law -/

/-- The tokens that a text consists of are read as an expression just if the whole of them is
derived as it by the grammar; there is one derivation at most; and what is not derived has a fault
in its syntax, unless a number in it has more digits than can be read. -/
theorem the_parser_accepts_its_grammar (ts : List Token) :
    (∀ e, parseTokens ts = .ok e ↔ ∃ d : Disjunction, d.tokens = ts ∧ d.expr = e) ∧
    (∀ d d' : Disjunction, d.tokens = ts → d'.tokens = ts → d = d') ∧
    ((¬ ∃ d : Disjunction, d.tokens = ts) →
      ∃ fault, parseTokens ts = .error fault ∧
        (fault.isSyntax = true ∨ ∃ whole, .number whole none ∈ ts ∧ maxDigits < whole.length ∧
          fault = .tooManyDigits whole.length)) := by
  have hread : ∀ d : Disjunction, d.tokens = ts → parseTokens ts = .ok d.expr := by
    rintro d rfl
    exact d.parseTokens_tokens
  have hreads := reads_or ts
  rw [parseTokens_eq] at hread ⊢
  generalize readOr ts = x at hread hreads ⊢
  refine ⟨fun e => ⟨fun h => ?_, fun ⟨d, hts, he⟩ => he ▸ hread d hts⟩, fun d d' hd hd' => ?_,
    fun hnone => ?_⟩
  · cases hreads with
    | @made e' rest hmade =>
      obtain ⟨d, rfl, hts⟩ := hmade
      rcases rest with _ | ⟨t, rest⟩
      · cases h
        exact ⟨d, by rwa [List.append_nil] at hts, rfl⟩
      · cases h
    | fault => cases h
  · have hsame : d.tokens ++ [] = d'.tokens ++ [] := by rw [hd, hd']
    exact (d.unique d' hsame endsDisjunction_nil endsDisjunction_nil).1
  · cases hreads with
    | @made e' rest hmade =>
      obtain ⟨d, rfl, hts⟩ := hmade
      rcases rest with _ | ⟨t, rest⟩
      · exact absurd ⟨d, by rwa [List.append_nil] at hts⟩ hnone
      · exact ⟨.unexpected t.lexeme, rfl, Or.inl rfl⟩
    | fault h => exact ⟨_, rfl, h⟩

/-- `fork || !branch == 'x' && changed('src',)`, as it is derived. -/
def forkOrChanged : Disjunction :=
  let text (s : String) : Primary := .atom (.text '\'' s.toList)
  let name (r : Root) : Primary := .atom (.ref ⟨r, []⟩)
  let alone (p : Primary) : Negation := .plain (.plain p)
  let elsewhere : Negation := .not (.plain (.rel (name .branch) (.cmp .eq) (text "x")))
  let source : Disjunction := .mk (.mk (alone (text "src")) .nil) .nil
  let changed : Negation := alone (.call .changed (.more source .none))
  .mk (.mk (alone (name .fork)) .nil) (.cons (.mk elsewhere (.cons changed .nil)) .nil)

/-- It is read as the derivation has it: `&&` binds more tightly than `||`, and `!` takes the whole
comparison. -/
theorem the_fork_or_the_changed_source_is_read :
    parseTokens [.name ["fork"], .mark .or, .mark .not, .name ["branch"], .mark .eq,
        .quoted '\'' ['x'], .mark .and, .name ["changed"], .mark .openParen,
        .quoted '\'' ['s', 'r', 'c'], .mark .comma, .mark .closeParen] =
      .ok (.or (.ref ⟨.fork, []⟩) (.and
        (.not (.cmp .eq (.ref ⟨.branch, []⟩) (.lit (.text "x"))))
        (.call .changed [.lit (.text "src")]))) :=
  ((the_parser_accepts_its_grammar _).1 _).2 ⟨forkOrChanged, rfl, rfl⟩

end GatedPipeline.Condition
