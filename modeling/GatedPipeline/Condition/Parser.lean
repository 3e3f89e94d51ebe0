-- Reading conditions. From the loosest to the tightest: `||`, `&&`, `!`, one
-- comparison or `in`, and what stands alone or in brackets. A comma may stand
-- after the last item of a list and the last argument of a call.
import GatedPipeline.Condition.Token
import GatedPipeline.Condition.Expr
namespace GatedPipeline.Condition
open GatedPipeline.Text GatedPipeline.Decimal

/-! ## What a token stands for -/

/-- The characters of a quoted text: a backslash stands for nothing, and the character after
it for itself. -/
def unescape : List Char → List Char
  | [] => []
  | [c] => [c]
  | c :: d :: r => if c = '\\' && d != '\n' then d :: unescape r else c :: unescape (d :: r)

/-- The value of a number token. -/
def numberValue (whole : List Char) : Option (List Char) → Except ParseFault Value
  | none =>
    match wholeOfDigits whole with
    | .ok n => .ok (.whole n)
    | .error _ => .error (.tooManyDigits whole.length)
  | some fraction =>
    .ok (.number (ofScientific false (ofDigits (whole ++ fraction)) (-fraction.length)))

def keyword? : List String → Option Value
  | ["true"] => some (.bool true)
  | ["false"] => some (.bool false)
  | ["null"] => some .null
  | _ => none

def comparison? : Token → Option Comparison
  | .mark .eq => some .eq
  | .mark .ne => some .ne
  | .mark .lt => some .lt
  | .mark .le => some .le
  | .mark .gt => some .gt
  | .mark .ge => some .ge
  | _ => none

/-- The function that a name calls. -/
def calledFunction (parts : List String) : Except ParseFault Function :=
  match Function.ofName? (".".intercalate parts) with
  | some f => .ok f
  | none => .error (.unknownFunction (".".intercalate parts))

/-- The reference with these parts. -/
def referenceOf (parts : List String) : Except ParseFault Reference :=
  match parts with
  | root :: path =>
    match Root.ofName? root with
    | some r => .ok ⟨r, path⟩
    | none => .error (.unknownReference (".".intercalate parts))
  | [] => .error (.unknownReference "")

/-! ## Reading tokens -/

/-- What was read, and the tokens after it. There are fewer than `bound` of them, so reading
goes on with less. -/
structure Parsed (α : Type) (bound : Nat) where
  result : α
  rest : List Token
  fewer : rest.length < bound

mutual

def parseOr (ts : List Token) : Except ParseFault (Parsed Expr ts.length) :=
  match parseAnd ts with
  | .error e => .error e
  | .ok ⟨left, rest, h⟩ =>
    match parseOrTail left rest with
    | .error e => .error e
    | .ok ⟨expr, rest', h'⟩ => .ok ⟨expr, rest', by omega⟩
termination_by (ts.length, 6)

/-- Joins what follows `||` to what was read before, from left to right. -/
def parseOrTail (left : Expr) (ts : List Token) : Except ParseFault (Parsed Expr (ts.length + 1)) :=
  match ts with
  | .mark .or :: ts' =>
    match parseAnd ts' with
    | .error e => .error e
    | .ok ⟨right, rest, h⟩ =>
      match parseOrTail (.or left right) rest with
      | .error e => .error e
      | .ok ⟨expr, rest', h'⟩ => .ok ⟨expr, rest', by simp only [List.length_cons]; omega⟩
  | ts => .ok ⟨left, ts, Nat.lt_succ_self _⟩
termination_by (ts.length, 0)

def parseAnd (ts : List Token) : Except ParseFault (Parsed Expr ts.length) :=
  match parseNot ts with
  | .error e => .error e
  | .ok ⟨left, rest, h⟩ =>
    match parseAndTail left rest with
    | .error e => .error e
    | .ok ⟨expr, rest', h'⟩ => .ok ⟨expr, rest', by omega⟩
termination_by (ts.length, 5)

/-- Joins what follows `&&` to what was read before, from left to right. -/
def parseAndTail (left : Expr) (ts : List Token) :
    Except ParseFault (Parsed Expr (ts.length + 1)) :=
  match ts with
  | .mark .and :: ts' =>
    match parseNot ts' with
    | .error e => .error e
    | .ok ⟨right, rest, h⟩ =>
      match parseAndTail (.and left right) rest with
      | .error e => .error e
      | .ok ⟨expr, rest', h'⟩ => .ok ⟨expr, rest', by simp only [List.length_cons]; omega⟩
  | ts => .ok ⟨left, ts, Nat.lt_succ_self _⟩
termination_by (ts.length, 0)

def parseNot (ts : List Token) : Except ParseFault (Parsed Expr ts.length) :=
  match ts with
  | .mark .not :: ts' =>
    match parseNot ts' with
    | .error e => .error e
    | .ok ⟨expr, rest, h⟩ => .ok ⟨.not expr, rest, by simp only [List.length_cons]; omega⟩
  | ts => parseComparison ts
termination_by (ts.length, 4)

def parseComparison (ts : List Token) : Except ParseFault (Parsed Expr ts.length) :=
  match parsePrimary ts with
  | .error e => .error e
  | .ok ⟨left, [], h⟩ => .ok ⟨left, [], h⟩
  | .ok ⟨left, t :: rest, h⟩ =>
    have fewer : rest.length < ts.length := Nat.lt_of_succ_lt h
    match comparison? t with
    | some op =>
      match parsePrimary rest with
      | .error e => .error e
      | .ok ⟨right, rest', h'⟩ =>
        .ok ⟨.cmp op left right, rest', by simp only [List.length_cons] at h; omega⟩
    | none =>
      if t = .name ["in"] then
        match parsePrimary rest with
        | .error e => .error e
        | .ok ⟨right, rest', h'⟩ =>
          .ok ⟨.mem left right, rest', by simp only [List.length_cons] at h; omega⟩
      else .ok ⟨left, t :: rest, h⟩
termination_by (ts.length, 3)

def parsePrimary (ts : List Token) : Except ParseFault (Parsed Expr ts.length) :=
  match ts with
  | [] => .error .expectedToken
  | .quoted _ body :: rest =>
    .ok ⟨.lit (.text (String.ofList (unescape body))), rest, by simp⟩
  | .number whole fraction :: rest =>
    match numberValue whole fraction with
    | .error e => .error e
    | .ok v => .ok ⟨.lit v, rest, by simp⟩
  | .mark .openParen :: rest =>
    match parseOr rest with
    | .error e => .error e
    | .ok ⟨expr, .mark .closeParen :: rest', h⟩ =>
      .ok ⟨expr, rest', by simp only [List.length_cons] at h ⊢; omega⟩
    | .ok _ => .error (.expected ")")
  | .mark .openBracket :: rest =>
    match parseItems rest with
    | .error e => .error e
    | .ok ⟨items, rest', h⟩ => .ok ⟨.list items, rest', by simp only [List.length_cons]; omega⟩
  | .name parts :: rest =>
    match keyword? parts with
    | some v => .ok ⟨.lit v, rest, by simp⟩
    | none =>
      match rest with
      | .mark .openParen :: rest' =>
        match calledFunction parts with
        | .error e => .error e
        | .ok f =>
          match parseArgs rest' with
          | .error e => .error e
          | .ok ⟨args, rest'', h⟩ =>
            .ok ⟨.call f args, rest'', by simp only [List.length_cons]; omega⟩
      | rest =>
        match referenceOf parts with
        | .error e => .error e
        | .ok r => .ok ⟨.ref r, rest, by simp⟩
  | .mark m :: _ => .error (.unexpected m.lexeme)
termination_by (ts.length, 2)

/-- The items of a list, up to its closing bracket. -/
def parseItems (ts : List Token) : Except ParseFault (Parsed (List Expr) ts.length) :=
  match ts with
  | .mark .closeBracket :: rest => .ok ⟨[], rest, by simp⟩
  | ts =>
    match parsePrimary ts with
    | .error e => .error e
    | .ok ⟨item, .mark .closeBracket :: rest, h⟩ =>
      .ok ⟨[item], rest, by simp only [List.length_cons] at h; omega⟩
    | .ok ⟨item, .mark .comma :: rest, h⟩ =>
      have fewer : rest.length < ts.length := Nat.lt_of_succ_lt h
      match parseItems rest with
      | .error e => .error e
      | .ok ⟨items, rest', h'⟩ =>
        .ok ⟨item :: items, rest', by simp only [List.length_cons] at h; omega⟩
    | .ok _ => .error (.expected ",")
termination_by (ts.length, 3)

/-- The arguments of a call, up to its closing parenthesis. -/
def parseArgs (ts : List Token) : Except ParseFault (Parsed (List Expr) ts.length) :=
  match ts with
  | .mark .closeParen :: rest => .ok ⟨[], rest, by simp⟩
  | ts =>
    match parseOr ts with
    | .error e => .error e
    | .ok ⟨arg, .mark .closeParen :: rest, h⟩ =>
      .ok ⟨[arg], rest, by simp only [List.length_cons] at h; omega⟩
    | .ok ⟨arg, .mark .comma :: rest, h⟩ =>
      have fewer : rest.length < ts.length := Nat.lt_of_succ_lt h
      match parseArgs rest with
      | .error e => .error e
      | .ok ⟨args, rest', h'⟩ =>
        .ok ⟨arg :: args, rest', by simp only [List.length_cons] at h; omega⟩
    | .ok _ => .error (.expected ",")
termination_by (ts.length, 7)

end

/-- The expression that all the tokens together write. -/
def parseTokens (ts : List Token) : Except ParseFault Expr :=
  match parseOr ts with
  | .error e => .error e
  | .ok ⟨expr, [], _⟩ => .ok expr
  | .ok ⟨_, t :: _, _⟩ => .error (.unexpected t.lexeme)

/-- The expression that a text writes. -/
def parse (expression : String) : Except ParseFault Expr :=
  if isBlankText expression then .error .empty
  else match tokenize expression with
    | .error position => .error (.badCharacter position)
    | .ok ts => parseTokens ts

/-- The references of the condition that a text writes. -/
def references (expression : String) : Except ParseFault (List Reference) :=
  (parse expression).map Expr.references

/-- The outputs that the condition of a text reads, each as stage and key. -/
def outputReferences (expression : String) : Except ParseFault (List (String × String)) := do
  outputsOf (← references expression)

end GatedPipeline.Condition
