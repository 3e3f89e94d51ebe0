-- The grammar of conditions. A tree is a derivation: it says which tokens it
-- writes, and which expression they stand for. No tokens are written by two
-- trees; what may follow a part, and what it may start with, shows where it ends.
import GatedPipeline.Condition.Parser
namespace GatedPipeline.Condition
open GatedPipeline.Decimal

/-! ## What one token writes -/

/-- A word that stands for a value. -/
inductive Keyword where
  | yes | no | null
  deriving DecidableEq

def Keyword.name : Keyword → String
  | .yes => "true" | .no => "false" | .null => "null"

def Keyword.value : Keyword → Value
  | .yes => .bool true | .no => .bool false | .null => .null

/-- What is written with one token, `string | number | true | false | null | reference`: a number
that can be read, and a reference with a known root. -/
inductive Atom where
  | text (quote : Char) (body : List Char)
  | number (whole : List Char) (fraction : Option (List Char)) (v : Value)
      (read : numberValue whole fraction = .ok v)
  | keyword (k : Keyword)
  | ref (r : Reference)

def Atom.token : Atom → Token
  | .text quote body => .quoted quote body
  | .number whole fraction _ _ => .number whole fraction
  | .keyword k => .name [k.name]
  | .ref r => .name (r.root.name :: r.path)

def Atom.expr : Atom → Expr
  | .text _ body => .lit (.text (String.ofList (unescape body)))
  | .number _ _ v _ => .lit v
  | .keyword k => .lit k.value
  | .ref r => .ref r

/-- What two items are related by: `== | != | < | <= | > | >= | in`. -/
inductive Relator where
  | cmp (op : Comparison)
  | mem

def Relator.token : Relator → Token
  | .cmp .eq => .mark .eq
  | .cmp .ne => .mark .ne
  | .cmp .lt => .mark .lt
  | .cmp .le => .mark .le
  | .cmp .gt => .mark .gt
  | .cmp .ge => .mark .ge
  | .mem => .name ["in"]

def Relator.expr : Relator → Expr → Expr → Expr
  | .cmp op => .cmp op
  | .mem => .mem

/-- The relator that a token writes. -/
def Relator.ofToken? (t : Token) : Option Relator :=
  match comparison? t with
  | some op => some (.cmp op)
  | none => if t = .name ["in"] then some .mem else none

/-! ## The names of the language -/

theorem Keyword.keyword?_name (k : Keyword) : keyword? [k.name] = some k.value := by
  cases k <;> rfl

theorem Keyword.value_injective {k k' : Keyword} (h : k.value = k'.value) : k = k' := by
  cases k <;> cases k' <;> first | rfl | cases h

theorem keyword_of_keyword? {parts : List String} {v : Value} (h : keyword? parts = some v) :
    ∃ k : Keyword, parts = [k.name] ∧ k.value = v := by
  unfold keyword? at h
  split at h
  · cases h
    exact ⟨.yes, rfl, rfl⟩
  · cases h
    exact ⟨.no, rfl, rfl⟩
  · cases h
    exact ⟨.null, rfl, rfl⟩
  · cases h

theorem Root.ofName?_name (r : Root) : Root.ofName? r.name = some r := by
  cases r <;> rfl

theorem Root.name_of_ofName? {s : String} {r : Root} (h : Root.ofName? s = some r) : r.name = s := by
  simpa using List.find?_some h

theorem Function.ofName?_name (f : Function) : Function.ofName? f.name = some f := by
  cases f <;> rfl

theorem Function.name_of_ofName? {s : String} {f : Function} (h : Function.ofName? s = some f) :
    f.name = s := by
  simpa using List.find?_some h

theorem Function.name_injective {f f' : Function} (h : f.name = f'.name) : f = f' :=
  Option.some.inj (by rw [← f.ofName?_name, ← f'.ofName?_name, h])

theorem Function.keyword?_name (f : Function) : keyword? [f.name] = none := by
  cases f <;> rfl

theorem Root.keyword?_name (r : Root) (path : List String) : keyword? (r.name :: path) = none := by
  cases r <;> rfl

theorem Function.name_plain (f : Function) : f.name ≠ "" ∧ '.' ∉ f.name.toList := by
  cases f <;> decide

/-- A text without points is a name of one part. -/
theorem parts_of_plain {parts : List String} {s : String} (hs : s ≠ "") (hdot : '.' ∉ s.toList)
    (h : ".".intercalate parts = s) : parts = [s] := by
  match parts with
  | [] => exact absurd h.symm hs
  | [p] =>
    rw [String.intercalate_singleton] at h
    rw [h]
  | p :: q :: parts =>
    rw [String.intercalate_cons_cons] at h
    refine absurd ?_ hdot
    rw [← h]
    simp [String.toList_append]

theorem calledFunction_name (f : Function) : calledFunction [f.name] = .ok f := by
  rw [calledFunction, String.intercalate_singleton, f.ofName?_name]

theorem calledFunction_cases (parts : List String) :
    (∃ f : Function, parts = [f.name] ∧ calledFunction parts = .ok f) ∨
      calledFunction parts = .error (.unknownFunction (".".intercalate parts)) := by
  unfold calledFunction
  rcases hf : Function.ofName? (".".intercalate parts) with _ | f
  · exact Or.inr rfl
  · obtain ⟨hne, hdot⟩ := f.name_plain
    exact Or.inl ⟨f, parts_of_plain hne hdot (Function.name_of_ofName? hf).symm, rfl⟩

theorem referenceOf_cases (parts : List String) :
    (∃ r : Reference, parts = r.root.name :: r.path ∧ referenceOf parts = .ok r) ∨
      ∃ name, referenceOf parts = .error (.unknownReference name) := by
  unfold referenceOf
  rcases parts with _ | ⟨root, path⟩
  · exact Or.inr ⟨_, rfl⟩
  · dsimp only
    rcases hr : Root.ofName? root with _ | r
    · exact Or.inr ⟨_, rfl⟩
    · exact Or.inl ⟨⟨r, path⟩, by rw [Root.name_of_ofName? hr], rfl⟩

theorem Keyword.not_root (k : Keyword) : Root.ofName? k.name = none := by
  cases k <;> rfl

/-! ## Derivations -/

mutual

/-- `or := and ('||' and)*` -/
inductive Disjunction where
  | mk (first : Conjunction) (rest : Disjuncts)

/-- `('||' and)*` -/
inductive Disjuncts where
  | nil
  | cons (c : Conjunction) (cs : Disjuncts)

/-- `and := not ('&&' not)*` -/
inductive Conjunction where
  | mk (first : Negation) (rest : Conjuncts)

/-- `('&&' not)*` -/
inductive Conjuncts where
  | nil
  | cons (n : Negation) (ns : Conjuncts)

/-- `not := '!' not | cmp` -/
inductive Negation where
  | not (n : Negation)
  | plain (c : Compared)

/-- `cmp := prim [relator prim]` -/
inductive Compared where
  | plain (p : Primary)
  | rel (l : Primary) (o : Relator) (r : Primary)

/-- `prim := atom | '(' or ')' | function '(' arguments ')' | '[' items ']'` -/
inductive Primary where
  | atom (a : Atom)
  | group (d : Disjunction)
  | call (f : Function) (args : Arguments)
  | list (items : Items)

/-- `[or (',' or)* [',']]`: nothing, or one, or one with a comma and what comes after it. -/
inductive Arguments where
  | none
  | last (d : Disjunction)
  | more (d : Disjunction) (rest : Arguments)

/-- `[prim (',' prim)* [',']]`: nothing, or one, or one with a comma and what comes after it. -/
inductive Items where
  | none
  | last (p : Primary)
  | more (p : Primary) (rest : Items)

end

/-! ## The tokens of a derivation -/

mutual

def Disjunction.tokens : Disjunction → List Token
  | .mk c cs => c.tokens ++ cs.tokens

def Disjuncts.tokens : Disjuncts → List Token
  | .nil => []
  | .cons c cs => .mark .or :: (c.tokens ++ cs.tokens)

def Conjunction.tokens : Conjunction → List Token
  | .mk n ns => n.tokens ++ ns.tokens

def Conjuncts.tokens : Conjuncts → List Token
  | .nil => []
  | .cons n ns => .mark .and :: (n.tokens ++ ns.tokens)

def Negation.tokens : Negation → List Token
  | .not n => .mark .not :: n.tokens
  | .plain c => c.tokens

def Compared.tokens : Compared → List Token
  | .plain p => p.tokens
  | .rel l o r => l.tokens ++ o.token :: r.tokens

def Primary.tokens : Primary → List Token
  | .atom a => [a.token]
  | .group d => .mark .openParen :: (d.tokens ++ [.mark .closeParen])
  | .call f args => .name [f.name] :: .mark .openParen :: (args.tokens ++ [.mark .closeParen])
  | .list items => .mark .openBracket :: (items.tokens ++ [.mark .closeBracket])

def Arguments.tokens : Arguments → List Token
  | .none => []
  | .last d => d.tokens
  | .more d args => d.tokens ++ .mark .comma :: args.tokens

def Items.tokens : Items → List Token
  | .none => []
  | .last p => p.tokens
  | .more p items => p.tokens ++ .mark .comma :: items.tokens

end

/-! ## The expression of a derivation -/

mutual

def Disjunction.expr : Disjunction → Expr
  | .mk c cs => cs.joined c.expr

/-- What comes before is joined with one after the other, from the left. -/
def Disjuncts.joined (left : Expr) : Disjuncts → Expr
  | .nil => left
  | .cons c cs => cs.joined (.or left c.expr)

def Conjunction.expr : Conjunction → Expr
  | .mk n ns => ns.joined n.expr

/-- What comes before is joined with one after the other, from the left. -/
def Conjuncts.joined (left : Expr) : Conjuncts → Expr
  | .nil => left
  | .cons n ns => ns.joined (.and left n.expr)

def Negation.expr : Negation → Expr
  | .not n => .not n.expr
  | .plain c => c.expr

def Compared.expr : Compared → Expr
  | .plain p => p.expr
  | .rel l o r => o.expr l.expr r.expr

def Primary.expr : Primary → Expr
  | .atom a => a.expr
  | .group d => d.expr
  | .call f args => .call f args.exprs
  | .list items => .list items.exprs

def Arguments.exprs : Arguments → List Expr
  | .none => []
  | .last d => [d.expr]
  | .more d args => d.expr :: args.exprs

def Items.exprs : Items → List Expr
  | .none => []
  | .last p => [p.expr]
  | .more p items => p.expr :: items.exprs

end

/-! ## How parts begin -/

/-- Whether a primary can begin with the token. -/
def Token.isFirst : Token → Bool
  | .mark .openParen | .mark .openBracket => true
  | .mark _ => false
  | _ => true

theorem Atom.isFirst_token (a : Atom) : a.token.isFirst = true := by
  cases a <;> rfl

theorem Primary.tokens_eq (p : Primary) : ∃ t ts, p.tokens = t :: ts ∧ t.isFirst = true := by
  cases p with
  | atom a => exact ⟨a.token, [], rfl, a.isFirst_token⟩
  | group d => exact ⟨_, _, rfl, rfl⟩
  | call f args => exact ⟨_, _, rfl, rfl⟩
  | list items => exact ⟨_, _, rfl, rfl⟩

theorem Compared.tokens_eq (c : Compared) : ∃ t ts, c.tokens = t :: ts ∧ t.isFirst = true := by
  cases c with
  | plain p => exact p.tokens_eq
  | rel l o r =>
    obtain ⟨t, ts, h, ht⟩ := l.tokens_eq
    exact ⟨t, ts ++ o.token :: r.tokens, by rw [tokens, h]; rfl, ht⟩

theorem Negation.tokens_eq (n : Negation) :
    ∃ t ts, n.tokens = t :: ts ∧ (t.isFirst = true ∨ t = .mark .not) := by
  cases n with
  | not n => exact ⟨_, _, rfl, Or.inr rfl⟩
  | plain c =>
    obtain ⟨t, ts, h, ht⟩ := c.tokens_eq
    exact ⟨t, ts, h, Or.inl ht⟩

theorem Conjunction.tokens_eq (c : Conjunction) :
    ∃ t ts, c.tokens = t :: ts ∧ (t.isFirst = true ∨ t = .mark .not) := by
  obtain ⟨n, ns⟩ := c
  obtain ⟨t, ts, h, ht⟩ := n.tokens_eq
  exact ⟨t, ts ++ ns.tokens, by rw [tokens, h]; rfl, ht⟩

theorem Disjunction.tokens_eq (d : Disjunction) :
    ∃ t ts, d.tokens = t :: ts ∧ (t.isFirst = true ∨ t = .mark .not) := by
  obtain ⟨c, cs⟩ := d
  obtain ⟨t, ts, h, ht⟩ := c.tokens_eq
  exact ⟨t, ts ++ cs.tokens, by rw [tokens, h]; rfl, ht⟩

/-- A part that can begin with no such token does not begin with it. -/
theorem append_ne_cons {P : Token → Prop} {us : List Token} (h : ∃ t vs, us = t :: vs ∧ P t)
    {t : Token} (ht : ¬ P t) (ts rest : List Token) : us ++ ts ≠ t :: rest := by
  obtain ⟨t', vs, rfl, ht'⟩ := h
  intro he
  obtain rfl := (List.cons.inj he).1
  exact ht ht'

/-! ## What may follow a part -/

theorem Relator.ofToken?_token (o : Relator) : Relator.ofToken? o.token = some o := by
  rcases o with op | _
  · cases op <;> rfl
  · rfl

theorem Relator.token_of_ofToken? {t : Token} {o : Relator} (h : Relator.ofToken? t = some o) :
    o.token = t := by
  unfold ofToken? at h
  split at h
  · rename_i op hop
    cases h
    unfold comparison? at hop
    split at hop <;> cases hop <;> rfl
  · split at h
    · rename_i hin
      cases h
      exact hin.symm
    · cases h

theorem Relator.token_ne_mark {m : Mark} (h : comparison? (.mark m) = none) (o : Relator) :
    Token.mark m ≠ o.token := by
  intro he
  have ho := o.ofToken?_token
  rw [← he, ofToken?, h] at ho
  cases ho

theorem Relator.token_injective {o o' : Relator} (h : o.token = o'.token) : o = o' :=
  Option.some.inj (by rw [← o.ofToken?_token, ← o'.ofToken?_token, h])

/-- No parenthesis follows, which would make a call of a name. -/
def EndsPrimary (ts : List Token) : Prop := ts.head? ≠ some (.mark .openParen)

/-- Nothing follows that would make a comparison longer. -/
structure EndsCompared (ts : List Token) : Prop where
  primary : EndsPrimary ts
  unrelated : ∀ o : Relator, ts.head? ≠ some o.token

/-- Nothing follows that would make a conjunction longer. -/
structure EndsConjunction (ts : List Token) : Prop extends EndsCompared ts where
  alone : ts.head? ≠ some (.mark .and)

/-- Nothing follows that would make a disjunction longer. -/
structure EndsDisjunction (ts : List Token) : Prop extends EndsConjunction ts where
  ended : ts.head? ≠ some (.mark .or)

theorem endsCompared_mark {m : Mark} (hm : m ≠ .openParen) (h : comparison? (.mark m) = none)
    (ts : List Token) : EndsCompared (.mark m :: ts) where
  primary := by simpa [EndsPrimary] using hm
  unrelated o := by simpa using o.token_ne_mark h

theorem endsPrimary_relator (o : Relator) (ts : List Token) : EndsPrimary (o.token :: ts) := by
  simpa [EndsPrimary] using Ne.symm (o.token_ne_mark rfl)

/-- The marks that end an item of a list, or the list. -/
def Mark.isStop (m : Mark) : Bool := m = .closeParen || m = .closeBracket || m = .comma

theorem endsDisjunction_stop {m : Mark} (h : m.isStop = true) (ts : List Token) :
    EndsDisjunction (.mark m :: ts) := by
  simp only [Mark.isStop, Bool.or_eq_true, decide_eq_true_eq] at h
  obtain (rfl | rfl) | rfl := h
  all_goals exact ⟨⟨endsCompared_mark (by simp) rfl ts, by simp⟩, by simp⟩

theorem endsDisjunction_nil : EndsDisjunction [] :=
  ⟨⟨⟨by simp [EndsPrimary], by simp⟩, by simp⟩, by simp⟩

theorem Conjuncts.ends (ns : Conjuncts) {rest : List Token} (h : EndsConjunction rest) :
    EndsCompared (ns.tokens ++ rest) := by
  cases ns with
  | nil => exact h.toEndsCompared
  | cons n ns => exact endsCompared_mark (by simp) rfl _

theorem Disjuncts.ends (cs : Disjuncts) {rest : List Token} (h : EndsDisjunction rest) :
    EndsConjunction (cs.tokens ++ rest) := by
  cases cs with
  | nil => exact h.toEndsConjunction
  | cons c cs => exact ⟨endsCompared_mark (by simp) rfl _, by simp [tokens]⟩

/-! ## No tokens are written twice

Two derivations are compared from the left, each followed by some tokens that cannot make it
longer. Then they end at the same place, and what follows is the same. -/

theorem Atom.token_injective {a a' : Atom} (h : a.token = a'.token) : a = a' := by
  have hapart : ∀ (k : Keyword) (r : Reference), [k.name] ≠ r.root.name :: r.path := by
    intro k r he
    have hroot : Root.ofName? k.name = some r.root := by
      rw [(List.cons.inj he).1, Root.ofName?_name]
    rw [k.not_root] at hroot
    cases hroot
  cases a with
  | text quote body =>
    cases a' with
    | text quote' body' =>
      obtain ⟨rfl, rfl⟩ := Token.quoted.inj h
      rfl
    | number | keyword | ref => cases h
  | number whole fraction v read =>
    cases a' with
    | number whole' fraction' v' read' =>
      obtain ⟨rfl, rfl⟩ := Token.number.inj h
      obtain rfl := Except.ok.inj (read.symm.trans read')
      rfl
    | text | keyword | ref => cases h
  | keyword k =>
    cases a' with
    | keyword k' =>
      have hk : keyword? [k.name] = keyword? [k'.name] := congrArg keyword? (Token.name.inj h)
      rw [k.keyword?_name, k'.keyword?_name] at hk
      exact congrArg Atom.keyword (Keyword.value_injective (Option.some.inj hk))
    | ref r => exact absurd (Token.name.inj h) (hapart k r)
    | text | number => cases h
  | ref r =>
    cases a' with
    | ref r' =>
      obtain ⟨hroot, hpath⟩ := List.cons.inj (Token.name.inj h)
      obtain ⟨root, path⟩ := r
      obtain ⟨root', path'⟩ := r'
      obtain rfl : root = root' := Option.some.inj <| by
        rw [← root.ofName?_name, ← root'.ofName?_name, hroot]
      rw [show path = path' from hpath]
    | keyword k => exact absurd (Token.name.inj h).symm (hapart k r)
    | text | number => cases h

mutual

theorem Disjunction.unique (d d' : Disjunction) {rest rest' : List Token}
    (h : d.tokens ++ rest = d'.tokens ++ rest')
    (hr : EndsDisjunction rest) (hr' : EndsDisjunction rest') : d = d' ∧ rest = rest' := by
  obtain ⟨c, cs⟩ := d
  obtain ⟨c', cs'⟩ := d'
  simp only [Disjunction.tokens, List.append_assoc] at h
  obtain ⟨rfl, hcs⟩ := Conjunction.unique c c' h (cs.ends hr) (cs'.ends hr')
  obtain ⟨rfl, hrest⟩ := Disjuncts.unique cs cs' hcs hr hr'
  exact ⟨rfl, hrest⟩
termination_by structural d

theorem Disjuncts.unique (cs cs' : Disjuncts) {rest rest' : List Token}
    (h : cs.tokens ++ rest = cs'.tokens ++ rest')
    (hr : EndsDisjunction rest) (hr' : EndsDisjunction rest') : cs = cs' ∧ rest = rest' := by
  cases cs with
  | nil =>
    cases cs' with
    | nil => exact ⟨rfl, h⟩
    | cons c' cs' => exact absurd (congrArg List.head? h) hr.ended
  | cons c cs =>
    cases cs' with
    | nil => exact absurd (congrArg List.head? h.symm) hr'.ended
    | cons c' cs' =>
      simp only [Disjuncts.tokens, List.cons_append, List.append_assoc, List.cons.injEq, true_and] at h
      obtain ⟨rfl, hcs⟩ := Conjunction.unique c c' h (cs.ends hr) (cs'.ends hr')
      obtain ⟨rfl, hrest⟩ := Disjuncts.unique cs cs' hcs hr hr'
      exact ⟨rfl, hrest⟩
termination_by structural cs

theorem Conjunction.unique (c c' : Conjunction) {rest rest' : List Token}
    (h : c.tokens ++ rest = c'.tokens ++ rest')
    (hr : EndsConjunction rest) (hr' : EndsConjunction rest') : c = c' ∧ rest = rest' := by
  obtain ⟨n, ns⟩ := c
  obtain ⟨n', ns'⟩ := c'
  simp only [Conjunction.tokens, List.append_assoc] at h
  obtain ⟨rfl, hns⟩ := Negation.unique n n' h (ns.ends hr) (ns'.ends hr')
  obtain ⟨rfl, hrest⟩ := Conjuncts.unique ns ns' hns hr hr'
  exact ⟨rfl, hrest⟩
termination_by structural c

theorem Conjuncts.unique (ns ns' : Conjuncts) {rest rest' : List Token}
    (h : ns.tokens ++ rest = ns'.tokens ++ rest')
    (hr : EndsConjunction rest) (hr' : EndsConjunction rest') : ns = ns' ∧ rest = rest' := by
  cases ns with
  | nil =>
    cases ns' with
    | nil => exact ⟨rfl, h⟩
    | cons n' ns' => exact absurd (congrArg List.head? h) hr.alone
  | cons n ns =>
    cases ns' with
    | nil => exact absurd (congrArg List.head? h.symm) hr'.alone
    | cons n' ns' =>
      simp only [Conjuncts.tokens, List.cons_append, List.append_assoc, List.cons.injEq, true_and] at h
      obtain ⟨rfl, hns⟩ := Negation.unique n n' h (ns.ends hr) (ns'.ends hr')
      obtain ⟨rfl, hrest⟩ := Conjuncts.unique ns ns' hns hr hr'
      exact ⟨rfl, hrest⟩
termination_by structural ns

theorem Negation.unique (n n' : Negation) {rest rest' : List Token}
    (h : n.tokens ++ rest = n'.tokens ++ rest')
    (hr : EndsCompared rest) (hr' : EndsCompared rest') : n = n' ∧ rest = rest' := by
  have hplain : ∀ (c : Compared) (ts us : List Token), c.tokens ++ ts ≠ .mark .not :: us :=
    fun c => append_ne_cons c.tokens_eq (by simp [Token.isFirst])
  cases n with
  | not n =>
    cases n' with
    | not n' =>
      simp only [Negation.tokens, List.cons_append, List.cons.injEq, true_and] at h
      obtain ⟨rfl, hrest⟩ := Negation.unique n n' h hr hr'
      exact ⟨rfl, hrest⟩
    | plain c' => exact absurd h.symm (hplain c' rest' _)
  | plain c =>
    cases n' with
    | not n' => exact absurd h (hplain c rest _)
    | plain c' =>
      obtain ⟨rfl, hrest⟩ := Compared.unique c c' h hr hr'
      exact ⟨rfl, hrest⟩
termination_by structural n

theorem Compared.unique (c c' : Compared) {rest rest' : List Token}
    (h : c.tokens ++ rest = c'.tokens ++ rest')
    (hr : EndsCompared rest) (hr' : EndsCompared rest') : c = c' ∧ rest = rest' := by
  cases c with
  | plain p =>
    cases c' with
    | plain p' =>
      obtain ⟨rfl, hrest⟩ := Primary.unique p p' h hr.primary hr'.primary
      exact ⟨rfl, hrest⟩
    | rel l' o' r' =>
      simp only [Compared.tokens, List.append_assoc, List.cons_append] at h
      obtain ⟨_, hrest⟩ := Primary.unique p l' h hr.primary (endsPrimary_relator o' _)
      exact absurd (congrArg List.head? hrest) (hr.unrelated o')
  | rel l o r =>
    cases c' with
    | plain p' =>
      simp only [Compared.tokens, List.append_assoc, List.cons_append] at h
      obtain ⟨_, hrest⟩ := Primary.unique l p' h (endsPrimary_relator o _) hr'.primary
      exact absurd (congrArg List.head? hrest.symm) (hr'.unrelated o)
    | rel l' o' r' =>
      simp only [Compared.tokens, List.append_assoc, List.cons_append] at h
      obtain ⟨rfl, htail⟩ := Primary.unique l l' h (endsPrimary_relator o _)
        (endsPrimary_relator o' _)
      obtain ⟨ho, hright⟩ := List.cons.inj htail
      obtain rfl := Relator.token_injective ho
      obtain ⟨rfl, hrest⟩ := Primary.unique r r' hright hr.primary hr'.primary
      exact ⟨rfl, hrest⟩
termination_by structural c

theorem Primary.unique (p p' : Primary) {rest rest' : List Token}
    (h : p.tokens ++ rest = p'.tokens ++ rest')
    (hr : EndsPrimary rest) (hr' : EndsPrimary rest') : p = p' ∧ rest = rest' := by
  have hmark : ∀ (a : Atom) (m : Mark), a.token ≠ .mark m := fun a m => by
    cases a <;> simp [Atom.token]
  cases p with
  | atom a =>
    cases p' with
    | atom a' =>
      obtain ⟨ha, hrest⟩ := List.cons.inj h
      exact ⟨congrArg Primary.atom (Atom.token_injective ha), hrest⟩
    | group | list => exact absurd (List.cons.inj h).1 (hmark a _)
    | call => exact absurd (congrArg List.head? (List.cons.inj h).2) hr
  | group d =>
    cases p' with
    | atom a' => exact absurd (List.cons.inj h).1.symm (hmark a' _)
    | group d' =>
      simp only [Primary.tokens, List.cons_append, List.append_assoc, List.cons.injEq, true_and,
        List.nil_append] at h
      obtain ⟨rfl, hrest⟩ := Disjunction.unique d d' h (endsDisjunction_stop rfl _)
        (endsDisjunction_stop rfl _)
      exact ⟨rfl, (List.cons.inj hrest).2⟩
    | call | list => cases (List.cons.inj h).1
  | call f args =>
    cases p' with
    | atom a' => exact absurd (congrArg List.head? (List.cons.inj h).2.symm) hr'
    | group | list => cases (List.cons.inj h).1
    | call f' args' =>
      simp only [Primary.tokens, List.cons_append, List.append_assoc, List.cons.injEq, true_and,
        List.nil_append, Token.name.injEq, and_true] at h
      obtain rfl := Function.name_injective h.1
      obtain ⟨rfl, hrest⟩ := Arguments.unique args args' h.2
      exact ⟨rfl, hrest⟩
  | list items =>
    cases p' with
    | atom a' => exact absurd (List.cons.inj h).1.symm (hmark a' _)
    | group | call => cases (List.cons.inj h).1
    | list items' =>
      simp only [Primary.tokens, List.cons_append, List.append_assoc, List.cons.injEq, true_and,
        List.nil_append] at h
      obtain ⟨rfl, hrest⟩ := Items.unique items items' h
      exact ⟨rfl, hrest⟩
termination_by structural p

theorem Arguments.unique (args args' : Arguments) {rest rest' : List Token}
    (h : args.tokens ++ .mark .closeParen :: rest = args'.tokens ++ .mark .closeParen :: rest') :
    args = args' ∧ rest = rest' := by
  have hsome : ∀ (d : Disjunction) (ts us : List Token),
      d.tokens ++ ts ≠ .mark .closeParen :: us :=
    fun d => append_ne_cons d.tokens_eq (by simp [Token.isFirst])
  have hends : ∀ {m : Mark} (ts : List Token), m.isStop = true → EndsDisjunction (.mark m :: ts) :=
    fun ts hm => endsDisjunction_stop hm ts
  cases args with
  | none =>
    cases args' with
    | none => exact ⟨rfl, (List.cons.inj h).2⟩
    | last d' => exact absurd h.symm (hsome d' _ _)
    | more d' args' =>
      simp only [Arguments.tokens, List.append_assoc] at h
      exact absurd h.symm (hsome d' _ _)
  | last d =>
    cases args' with
    | none => exact absurd h (hsome d _ _)
    | last d' =>
      obtain ⟨rfl, hrest⟩ := Disjunction.unique d d' h (hends _ rfl) (hends _ rfl)
      exact ⟨rfl, (List.cons.inj hrest).2⟩
    | more d' args' =>
      simp only [Arguments.tokens, List.cons_append, List.append_assoc] at h
      obtain ⟨_, hrest⟩ := Disjunction.unique d d' h (hends _ rfl) (hends _ rfl)
      cases hrest
  | more d args =>
    cases args' with
    | none =>
      simp only [Arguments.tokens, List.append_assoc] at h
      exact absurd h (hsome d _ _)
    | last d' =>
      simp only [Arguments.tokens, List.cons_append, List.append_assoc] at h
      obtain ⟨_, hrest⟩ := Disjunction.unique d d' h (hends _ rfl) (hends _ rfl)
      cases hrest
    | more d' args' =>
      simp only [Arguments.tokens, List.cons_append, List.append_assoc] at h
      obtain ⟨rfl, htail⟩ := Disjunction.unique d d' h (hends _ rfl) (hends _ rfl)
      obtain ⟨rfl, hrest⟩ := Arguments.unique args args' (List.cons.inj htail).2
      exact ⟨rfl, hrest⟩
termination_by structural args

theorem Items.unique (items items' : Items) {rest rest' : List Token}
    (h : items.tokens ++ .mark .closeBracket :: rest =
      items'.tokens ++ .mark .closeBracket :: rest') : items = items' ∧ rest = rest' := by
  have hsome : ∀ (p : Primary) (ts us : List Token),
      p.tokens ++ ts ≠ .mark .closeBracket :: us :=
    fun p => append_ne_cons p.tokens_eq (by simp [Token.isFirst])
  have hends : ∀ {m : Mark} (ts : List Token), m.isStop = true → EndsPrimary (.mark m :: ts) :=
    fun ts hm => (endsDisjunction_stop hm ts).primary
  cases items with
  | none =>
    cases items' with
    | none => exact ⟨rfl, (List.cons.inj h).2⟩
    | last p' => exact absurd h.symm (hsome p' _ _)
    | more p' items' =>
      simp only [Items.tokens, List.append_assoc] at h
      exact absurd h.symm (hsome p' _ _)
  | last p =>
    cases items' with
    | none => exact absurd h (hsome p _ _)
    | last p' =>
      obtain ⟨rfl, hrest⟩ := Primary.unique p p' h (hends _ rfl) (hends _ rfl)
      exact ⟨rfl, (List.cons.inj hrest).2⟩
    | more p' items' =>
      simp only [Items.tokens, List.cons_append, List.append_assoc] at h
      obtain ⟨_, hrest⟩ := Primary.unique p p' h (hends _ rfl) (hends _ rfl)
      cases hrest
  | more p items =>
    cases items' with
    | none =>
      simp only [Items.tokens, List.append_assoc] at h
      exact absurd h (hsome p _ _)
    | last p' =>
      simp only [Items.tokens, List.cons_append, List.append_assoc] at h
      obtain ⟨_, hrest⟩ := Primary.unique p p' h (hends _ rfl) (hends _ rfl)
      cases hrest
    | more p' items' =>
      simp only [Items.tokens, List.cons_append, List.append_assoc] at h
      obtain ⟨rfl, htail⟩ := Primary.unique p p' h (hends _ rfl) (hends _ rfl)
      obtain ⟨rfl, hrest⟩ := Items.unique items items' (List.cons.inj htail).2
      exact ⟨rfl, hrest⟩
termination_by structural items

end

end GatedPipeline.Condition
