-- The references of a condition are its names. What the tree lists is what the
-- tokens show: every name in its place, except those that stand for a value,
-- for `in` or for a called function.
import GatedPipeline.Proofs.Condition.Literal
namespace GatedPipeline.Condition
open GatedPipeline.Text

/-! ## The names among some tokens -/

/-- The names that are keywords or an operator. -/
def reserved : List String := ["true", "false", "null", "in"]

/-- Whether the token is the name of something to look up: neither reserved, nor the name of a
function with a parenthesis after it. -/
def Token.isListed (next : Option Token) : Token → Bool
  | .name parts =>
    let name := ".".intercalate parts
    !reserved.contains name &&
      !((Function.all.map Function.name).contains name && next = some (.mark .openParen))
  | _ => false

/-- The tokens that are such names, in their order. -/
def listed : List Token → List Token
  | [] => []
  | t :: ts => if t.isListed ts.head? then t :: listed ts else listed ts

/-- The names as they are written. -/
def writtenNames (ts : List Token) : List String := (listed ts).map Token.lexeme

/-- The token that writes a reference. -/
def Reference.token (r : Reference) : Token := .name (r.root.name :: r.path)

theorem listed_mark (m : Mark) (ts : List Token) : listed (.mark m :: ts) = listed ts := rfl

theorem listed_subset (ts : List Token) : listed ts ⊆ ts := by
  induction ts with
  | nil => exact List.Subset.refl []
  | cons t ts ih =>
    rw [listed]
    split
    · exact List.cons_subset_cons t ih
    · exact List.subset_cons_of_subset t ih

/-- A reference is not written as a word that no root has. -/
theorem Reference.name_ne (r : Reference) {word : String} (hne : word ≠ "")
    (hdot : '.' ∉ word.toList) (hroot : Root.ofName? word = none) : r.name ≠ word := by
  intro h
  obtain ⟨hname, _⟩ := List.cons.inj (parts_of_plain hne hdot h)
  rw [← hname, r.root.ofName?_name] at hroot
  cases hroot

theorem listed_reference (r : Reference) (ts : List Token) :
    listed (r.token :: ts) = r.token :: listed ts := by
  have hwords : ∀ word ∈ reserved ++ Function.all.map Function.name,
      word ≠ "" ∧ '.' ∉ word.toList ∧ Root.ofName? word = none := by decide
  have hname : r.name ∉ reserved ++ Function.all.map Function.name := fun h =>
    have ⟨hne, hdot, hroot⟩ := hwords _ h
    r.name_ne hne hdot hroot rfl
  obtain ⟨hreserved, hfunction⟩ := not_or.1 (mt List.mem_append.2 hname)
  have hlisted : r.token.isListed ts.head? = true := by
    change (!reserved.contains r.name && !((Function.all.map Function.name).contains r.name && _)) =
      true
    rw [List.contains_eq_mem, List.contains_eq_mem, decide_eq_false hreserved,
      decide_eq_false hfunction]
    rfl
  rw [listed, if_pos hlisted]

theorem listed_call (f : Function) (ts : List Token) :
    listed (.name [f.name] :: .mark .openParen :: ts) = listed ts := by
  cases f <;> rfl

theorem listed_relator (o : Relator) (ts : List Token) : listed (o.token :: ts) = listed ts := by
  rcases o with op | _
  · cases op <;> rfl
  · rfl

theorem Relator.references_expr (o : Relator) (l r : Expr) :
    (o.expr l r).references = l.references ++ r.references := by
  cases o <;> rfl

/-! ## The names that a derivation writes -/

theorem Atom.listed_token (a : Atom) (rest : List Token) :
    listed (a.token :: rest) = a.expr.references.map Reference.token ++ listed rest := by
  cases a with
  | text | number => rfl
  | keyword k => cases k <;> rfl
  | ref r => exact listed_reference r rest

-- By induction on the derivation. Each part writes the names of its own tree and no others,
-- whatever comes after it; what is joined to a tree on its left has the names of that tree first.
mutual

theorem Disjunction.listed_tokens (d : Disjunction) (rest : List Token) :
    listed (d.tokens ++ rest) = d.expr.references.map Reference.token ++ listed rest := by
  obtain ⟨c, cs⟩ := d
  rw [Disjunction.tokens, List.append_assoc, c.listed_tokens, cs.listed_tokens]
  rfl
termination_by structural d

theorem Disjuncts.listed_tokens (cs : Disjuncts) (left : Expr) (rest : List Token) :
    left.references.map Reference.token ++ listed (cs.tokens ++ rest) =
      (cs.joined left).references.map Reference.token ++ listed rest := by
  cases cs with
  | nil => rfl
  | cons c cs =>
    rw [Disjuncts.joined, ← cs.listed_tokens, Disjuncts.tokens, List.cons_append, listed_mark,
      List.append_assoc, c.listed_tokens, Expr.references, List.map_append, List.append_assoc]
termination_by structural cs

theorem Conjunction.listed_tokens (c : Conjunction) (rest : List Token) :
    listed (c.tokens ++ rest) = c.expr.references.map Reference.token ++ listed rest := by
  obtain ⟨n, ns⟩ := c
  rw [Conjunction.tokens, List.append_assoc, n.listed_tokens, ns.listed_tokens]
  rfl
termination_by structural c

theorem Conjuncts.listed_tokens (ns : Conjuncts) (left : Expr) (rest : List Token) :
    left.references.map Reference.token ++ listed (ns.tokens ++ rest) =
      (ns.joined left).references.map Reference.token ++ listed rest := by
  cases ns with
  | nil => rfl
  | cons n ns =>
    rw [Conjuncts.joined, ← ns.listed_tokens, Conjuncts.tokens, List.cons_append, listed_mark,
      List.append_assoc, n.listed_tokens, Expr.references, List.map_append, List.append_assoc]
termination_by structural ns

theorem Negation.listed_tokens (n : Negation) (rest : List Token) :
    listed (n.tokens ++ rest) = n.expr.references.map Reference.token ++ listed rest := by
  cases n with
  | not n => exact n.listed_tokens rest
  | plain c => exact c.listed_tokens rest
termination_by structural n

theorem Compared.listed_tokens (c : Compared) (rest : List Token) :
    listed (c.tokens ++ rest) = c.expr.references.map Reference.token ++ listed rest := by
  cases c with
  | plain p => exact p.listed_tokens rest
  | rel l o r =>
    rw [Compared.tokens, List.append_assoc, List.cons_append, l.listed_tokens, listed_relator,
      r.listed_tokens, Compared.expr, o.references_expr, List.map_append, List.append_assoc]
termination_by structural c

theorem Primary.listed_tokens (p : Primary) (rest : List Token) :
    listed (p.tokens ++ rest) = p.expr.references.map Reference.token ++ listed rest := by
  cases p with
  | atom a => exact a.listed_token rest
  | group d =>
    rw [Primary.tokens, List.cons_append, listed_mark, List.append_assoc, d.listed_tokens]
    rfl
  | call f args =>
    rw [Primary.tokens, List.cons_append, List.cons_append, listed_call, List.append_assoc,
      args.listed_tokens]
    rfl
  | list items =>
    rw [Primary.tokens, List.cons_append, listed_mark, List.append_assoc, items.listed_tokens]
    rfl
termination_by structural p

theorem Arguments.listed_tokens (args : Arguments) (rest : List Token) :
    listed (args.tokens ++ rest) =
      (referencesOfAll args.exprs).map Reference.token ++ listed rest := by
  cases args with
  | none => rfl
  | last d =>
    rw [Arguments.exprs, referencesOfAll, referencesOfAll, List.append_nil]
    exact d.listed_tokens rest
  | more d args =>
    rw [Arguments.tokens, List.append_assoc, d.listed_tokens, List.cons_append, listed_mark,
      args.listed_tokens, Arguments.exprs, referencesOfAll, List.map_append, List.append_assoc]
termination_by structural args

theorem Items.listed_tokens (items : Items) (rest : List Token) :
    listed (items.tokens ++ rest) =
      (referencesOfAll items.exprs).map Reference.token ++ listed rest := by
  cases items with
  | none => rfl
  | last p =>
    rw [Items.exprs, referencesOfAll, referencesOfAll, List.append_nil]
    exact p.listed_tokens rest
  | more p items =>
    rw [Items.tokens, List.append_assoc, p.listed_tokens, List.cons_append, listed_mark,
      items.listed_tokens, Items.exprs, referencesOfAll, List.map_append, List.append_assoc]
termination_by structural items

end

/-- The references of what is read are the names that it is read from. -/
theorem references_of_parseTokens {ts : List Token} {e : Expr} (h : parseTokens ts = .ok e) :
    e.references.map Reference.token = listed ts := by
  have hreads := reads_or ts
  rw [parseTokens_eq] at h
  generalize readOr ts = x at h hreads
  cases hreads with
  | @made e' rest hmade =>
    obtain ⟨d, rfl, hts⟩ := hmade
    rcases rest with _ | ⟨t, rest⟩
    · cases h
      rw [← hts, d.listed_tokens, listed, List.append_nil]
    · cases h
  | fault => cases h

/-! ## The parts of a name -/

/-- The parts of a name have no points in them. -/
def Token.Plain (t : Token) : Prop := ∀ parts, t = .name parts → ∀ part ∈ parts, '.' ∉ part.toList

theorem plain_takeWhile (cs : List Char) :
    '.' ∉ (String.ofList (cs.takeWhile isNameChar)).toList := by
  intro h
  rw [String.toList_ofList] at h
  exact absurd (List.mem_takeWhile_imp h) (by decide)

theorem plain_scanParts (cs : List Char) : ∀ part ∈ (scanParts cs).1, '.' ∉ part.toList := by
  fun_induction scanParts cs with
  | case1 | case3 => simp
  | case2 r part hempty parts after hrest ih =>
    rw [hrest] at ih
    exact List.forall_mem_cons.2 ⟨plain_takeWhile r, ih⟩

theorem plain_scanName? {cs rest : List Char} {parts : List String}
    (h : scanName? cs = some (parts, rest)) : ∀ part ∈ parts, '.' ∉ part.toList := by
  cases cs with
  | nil => cases h
  | cons c r =>
    rw [scanName?] at h
    split at h
    · rename_i hstart
      cases h
      refine List.forall_mem_cons.2 ⟨?_, plain_scanParts _⟩
      have hname : isNameChar c = true := by
        simp only [isNameStart, Bool.or_eq_true, decide_eq_true_eq] at hstart
        rcases hstart with hstart | rfl
        · simp [isNameChar, Char.isAlphanum, hstart]
        · rfl
      have hfirst := plain_takeWhile (c :: r)
      rwa [List.takeWhile_cons_of_pos hname] at hfirst
    · cases h

theorem plain_scan? {cs rest : List Char} {t : Token} (h : scan? cs = some (t, rest)) :
    t.Plain := by
  rintro parts rfl
  unfold scan? at h
  split at h
  · cases h
  split at h
  · cases h
  split at h
  · obtain ⟨_, _, he⟩ := Option.map_eq_some_iff.1 h
    cases he
  split at h
  · cases h
  · obtain ⟨⟨parts', rest'⟩, hname, he⟩ := Option.map_eq_some_iff.1 h
    cases he
    exact plain_scanName? hname

theorem plain_lex {cs : List Char} {ts : List Token} (h : lex cs = .ok ts) :
    ∀ t ∈ ts, t.Plain := by
  fun_induction lex cs generalizing ts with
  | case1 =>
    cases h
    simp
  | case2 => cases h
  | case3 cs hempty t rest hscan ts' hrest ih =>
    cases h
    exact List.forall_mem_cons.2 ⟨plain_scan? hscan, ih hrest⟩
  | case4 => cases h

/-- A reference falls into the parts that it was put together from. -/
theorem Reference.splitText_name {r : Reference} (h : r.token.Plain) :
    splitText '.' r.name = r.root.name :: r.path := by
  have hplain := h _ rfl
  have hchars : r.name.toList = ['.'].intercalate ((r.root.name :: r.path).map String.toList) :=
    String.toList_intercalate
  rw [splitText, hchars, pieces_intercalate (by simp) (by simpa using hplain), List.map_map]
  simp [Function.comp_def]

/-! ## The outputs among the references -/

/-- The stage and the key of an output, by its name. -/
def outputNamed? (name : String) : Option (String × String) :=
  match splitText '.' name with
  | ["outputs", stage, key] => some (stage, key)
  | _ => none

/-- The name starts as that of an output, but does not have three parts. -/
def Misnamed (name : String) : Prop :=
  (splitText '.' name).head? = some "outputs" ∧ (splitText '.' name).length ≠ 3

instance (name : String) : Decidable (Misnamed name) := inferInstanceAs (Decidable (_ ∧ _))

theorem Root.name_eq_outputs {root : Root} : root.name = "outputs" ↔ root = .outputs := by
  cases root <;> decide

/-- One more reference: another fault, an output, or neither. -/
theorem outputsOf_cons {r : Reference} (h : r.token.Plain) (refs : List Reference) :
    Misnamed r.name ∧ outputsOf (r :: refs) = .error (.badOutputReference r.name) ∨
    ¬ Misnamed r.name ∧ outputsOf (r :: refs) =
      (outputsOf refs).map ((outputNamed? r.name).toList ++ ·) := by
  simp only [Misnamed, outputNamed?, Reference.splitText_name h]
  obtain ⟨root, path⟩ := r
  by_cases hroot : root = .outputs
  · subst hroot
    match path with
    | [stage, key] => exact Or.inr ⟨by simp, rfl⟩
    | [] | [_] | _ :: _ :: _ :: _ => exact Or.inl ⟨by simp [Root.name], rfl⟩
  · have hname := mt Root.name_eq_outputs.1 hroot
    refine Or.inr ⟨by simp [hname], ?_⟩
    rw [outputsOf, if_neg hroot]
    · split
      · rename_i hparts
        exact absurd (List.cons.inj hparts).1 hname
      · rcases outputsOf refs with fault | found <;> rfl
    · rintro stage key ⟨⟩
      exact hroot rfl

/-- Either all outputs are named as they should be, and these are what is listed, or one of them is
not, and is the fault. -/
theorem outputsOf_cases {refs : List Reference} (h : ∀ r ∈ refs, r.token.Plain) :
    ((∀ name ∈ refs.map Reference.name, ¬ Misnamed name) ∧
      outputsOf refs = .ok ((refs.map Reference.name).filterMap outputNamed?)) ∨
    ∃ name ∈ refs.map Reference.name, Misnamed name ∧
      outputsOf refs = .error (.badOutputReference name) := by
  induction refs with
  | nil => exact Or.inl ⟨by simp, rfl⟩
  | cons r refs ih =>
    obtain ⟨hr, hrefs⟩ := List.forall_mem_cons.1 h
    rw [List.map_cons]
    rcases outputsOf_cons hr refs with ⟨hbad, hcons⟩ | ⟨hgood, hcons⟩
    · exact Or.inr ⟨r.name, List.mem_cons_self, hbad, hcons⟩
    rw [hcons]
    rcases ih hrefs with ⟨hall, hok⟩ | ⟨name, hmem, hbad, herror⟩
    · refine Or.inl ⟨List.forall_mem_cons.2 ⟨hgood, hall⟩, ?_⟩
      rw [hok, List.filterMap_cons]
      rcases outputNamed? r.name with _ | output <;> rfl
    · refine Or.inr ⟨name, List.mem_cons_of_mem _ hmem, hbad, ?_⟩
      rw [herror]
      rfl

/-! ## The law -/

/-- The references of a condition are the names among its tokens, in the order in which they are
written and as often, apart from the keywords, from `in` and from the names of called functions. The
outputs among them are listed, each as stage and key and in the same order, unless one of them does
not have three parts; just then there is a fault, of the syntax and with that name. -/
theorem the_references_are_the_names_that_are_written {text : String} {e : Expr}
    (h : parse text = .ok e) :
    ∃ ts, tokenize text = .ok ts ∧
      (references text).map (List.map Reference.name) = .ok (writtenNames ts) ∧
      ((∃ fault, outputReferences text = .error fault ∧ fault.isSyntax = true) ↔
        ∃ name ∈ writtenNames ts, Misnamed name) ∧
      (∀ fault, outputReferences text = .error fault →
        ∃ name ∈ writtenNames ts, Misnamed name ∧ fault = .badOutputReference name) ∧
      ((∀ name ∈ writtenNames ts, ¬ Misnamed name) →
        outputReferences text = .ok ((writtenNames ts).filterMap outputNamed?)) := by
  have hrefs : references text = .ok e.references := by
    rw [references, h]
    rfl
  have houtputs : outputReferences text = outputsOf e.references := by
    rw [outputReferences, hrefs]
    rfl
  unfold parse at h
  split at h
  · cases h
  split at h
  · cases h
  rename_i ts hts
  have hlisted := references_of_parseTokens h
  have hplain : ∀ r ∈ e.references, r.token.Plain := fun r hr =>
    plain_lex (tokenize_eq_ok.1 hts) _ (listed_subset ts (hlisted ▸ List.mem_map_of_mem hr))
  have hnames : writtenNames ts = e.references.map Reference.name := by
    rw [writtenNames, ← hlisted, List.map_map]
    rfl
  rw [houtputs, hrefs]
  refine ⟨ts, hts, congrArg Except.ok hnames.symm, ?_⟩
  rw [hnames]
  rcases outputsOf_cases hplain with ⟨hgood, hok⟩ | ⟨name, hmem, hbad, herror⟩
  · rw [hok]
    refine ⟨⟨?_, ?_⟩, ?_, fun _ => rfl⟩
    · rintro ⟨fault, hfault, _⟩
      cases hfault
    · rintro ⟨name, hmem, hbad⟩
      exact absurd hbad (hgood name hmem)
    · rintro fault ⟨⟩
  · rw [herror]
    refine ⟨⟨fun _ => ⟨name, hmem, hbad⟩, fun _ => ⟨_, rfl, rfl⟩⟩, ?_,
      fun hgood => absurd hbad (hgood name hmem)⟩
    rintro fault ⟨⟩
    exact ⟨name, hmem, hbad, rfl⟩

/-- `branch in [vars.base, [ref]] && !contains(outputs.build.log, fork) || branch`, as it is
derived. -/
def branchAmongBases : Disjunction :=
  let name (root : Root) (path : List String) : Primary := .atom (.ref ⟨root, path⟩)
  let alone (p : Primary) : Disjunction := .mk (.mk (.plain (.plain p)) .nil) .nil
  let bases : Primary := .list (.more (name .vars ["base"]) (.last (.list (.last (name .ref [])))))
  let forkLogged : Primary :=
    .call .contains (.more (alone (name .outputs ["build", "log"])) (.last (alone (name .fork []))))
  .mk (.mk (.plain (.rel (name .branch []) .mem bases))
      (.cons (.not (.plain (.plain forkLogged))) .nil))
    (.cons (.mk (.plain (.plain (name .branch []))) .nil) .nil)

/-- Each name is in its place, in a list's list and in a call too, and one that is written twice is
listed twice. -/
theorem the_names_of_a_nested_condition_are_listed :
    let text := "branch in [vars.base, [ref]] && !contains(outputs.build.log, fork) || branch"
    (references text).map (List.map Reference.name) =
      .ok ["branch", "vars.base", "ref", "outputs.build.log", "fork", "branch"] ∧
    outputReferences text = .ok [("build", "log")] := by
  intro text
  have htokens : tokenize text = .ok branchAmongBases.tokens := by decide +kernel
  obtain ⟨ts, hts, hrefs, _, _, houtputs⟩ :=
    the_references_are_the_names_that_are_written (branchAmongBases.parse htokens (by decide))
  obtain rfl := Except.ok.inj (htokens.symm.trans hts)
  exact ⟨hrefs, houtputs (by decide)⟩

end GatedPipeline.Condition
