-- Reading JSON: first the tokens of a text, then the value that they write.
import GatedPipeline.Json.Basic
import GatedPipeline.Decimal.Reading
namespace GatedPipeline.Json
open GatedPipeline.Text GatedPipeline.Decimal

/-! ## Tokens -/

/-- The characters that stand between values. -/
inductive Mark where
  | openList | closeList | openObject | closeObject | comma | colon
  deriving DecidableEq, Repr, Inhabited

inductive Token where
  | mark (m : Mark)
  | text (s : String)
  /-- A number, a truth value or null. -/
  | scalar (j : Json)
  deriving Inhabited

/-- The mark that a character is, if it is one. -/
def mark? (c : Char) : Option Mark :=
  if c = '[' then some .openList
  else if c = ']' then some .closeList
  else if c = '\x7b' then some .openObject
  else if c = '\x7d' then some .closeObject
  else if c = ',' then some .comma
  else if c = ':' then some .colon
  else none

def isSpace (c : Char) : Bool := c = ' ' || c = '\t' || c = '\n' || c = '\r'

/-- A character of a number or of a word. -/
def isWordChar (c : Char) : Bool := c.isAlphanum || c = '-' || c = '+' || c = '.'

/-- The value of a hexadecimal digit. -/
def hexValue? (c : Char) : Option Nat :=
  if '0' ≤ c && c ≤ '9' then some (c.toNat - '0'.toNat)
  else if 'a' ≤ c && c ≤ 'f' then some (c.toNat - 'a'.toNat + 10)
  else if 'A' ≤ c && c ≤ 'F' then some (c.toNat - 'A'.toNat + 10)
  else none

/-- The 16-bit unit that four digits write. -/
def unit? (a b c d : Char) : Option Nat := do
  return (((← hexValue? a) * 16 + (← hexValue? b)) * 16 + (← hexValue? c)) * 16 + (← hexValue? d)

/-- The character of two units, if the first begins a pair and the second ends it. -/
def pairChar? (high low : Nat) : Option Char :=
  if 0xd800 ≤ high && high < 0xdc00 && 0xdc00 ≤ low && low < 0xe000 then
    some (Char.ofNat (0x10000 + (high - 0xd800) * 0x400 + (low - 0xdc00)))
  else none

/-- The character of a unit. Half of a pair stands for no character. -/
def unitChar (n : Nat) : Char :=
  if 0xd800 ≤ n && n < 0xe000 then Char.ofNat 0xfffd else Char.ofNat n

/-- The character that a letter after a backslash stands for. -/
def escaped? (c : Char) : Option Char :=
  match c with
  | '"' => some '"' | '\\' => some '\\' | '/' => some '/'
  | 'b' => some '\x08' | 'f' => some '\x0c' | 'n' => some '\n' | 'r' => some '\r' | 't' => some '\t'
  | _ => none

/-- The characters of a text up to its closing quote, and what follows the quote. -/
def textBody : List Char → Option (List Char × List Char)
  | [] => none
  | '"' :: r => some ([], r)
  | '\\' :: 'u' :: a :: b :: c :: d :: r =>
    match unit? a b c d with
    | none => none
    | some high =>
      match r with
      | '\\' :: 'u' :: a' :: b' :: c' :: d' :: r' =>
        match (unit? a' b' c' d').bind (pairChar? high) with
        | some ch => (textBody r').map fun (s, rest) => (ch :: s, rest)
        | none => (textBody ('\\' :: 'u' :: a' :: b' :: c' :: d' :: r')).map
            fun (s, rest) => (unitChar high :: s, rest)
      | r => (textBody r).map fun (s, rest) => (unitChar high :: s, rest)
  | '\\' :: c :: r =>
    match escaped? c with
    | some ch => (textBody r).map fun (s, rest) => (ch :: s, rest)
    | none => none
  | c :: r => if c.toNat < 0x20 then none else (textBody r).map fun (s, rest) => (c :: s, rest)

theorem textBody_length {cs s rest : List Char} (h : textBody cs = some (s, rest)) :
    rest.length < cs.length := by
  fun_induction textBody cs generalizing s rest
  all_goals simp_all [Option.map_eq_some_iff]
  all_goals grind

/-- The number or word with these characters. -/
def scalar? (word : List Char) : Option Json :=
  let s := String.ofList word
  if s = "null" then some .null
  else if s = "true" then some (.bool true)
  else if s = "false" then some (.bool false)
  else if word.any fun c => c = '.' || c = 'e' || c = 'E' then (readNumber? s).map .number
  else (readWhole s).toOption.map .whole

/-- The tokens of a text. -/
def tokenize? (cs : List Char) : Option (List Token) :=
  match cs with
  | [] => some []
  | c :: r =>
    if isSpace c then tokenize? r
    else if let some m := mark? c then (tokenize? r).map (.mark m :: ·)
    else if c = '"' then
      match h : textBody r with
      | none => none
      | some (s, rest) =>
        have := textBody_length h
        (tokenize? rest).map (.text (String.ofList s) :: ·)
    else if isWordChar c then
      match scalar? (c :: r.takeWhile isWordChar) with
      | none => none
      | some j =>
        have := (List.dropWhile_suffix isWordChar (l := r)).length_le
        (tokenize? (r.dropWhile isWordChar)).map (.scalar j :: ·)
    else none
termination_by cs.length

/-! ## Values -/

/-- What was read, and the tokens after it. There are fewer than `bound` of them. -/
structure Parsed (α : Type) (bound : Nat) where
  result : α
  rest : List Token
  fewer : rest.length < bound

mutual

def parseValue? (ts : List Token) : Option (Parsed Json ts.length) :=
  match ts with
  | .scalar j :: rest => some ⟨j, rest, by simp⟩
  | .text s :: rest => some ⟨.text s, rest, by simp⟩
  | .mark .openList :: .mark .closeList :: rest =>
    some ⟨.list [], rest, by simp only [List.length_cons]; omega⟩
  | .mark .openList :: rest =>
    match parseItems? rest with
    | none => none
    | some ⟨items, rest', h⟩ => some ⟨.list items, rest', by simp only [List.length_cons]; omega⟩
  | .mark .openObject :: .mark .closeObject :: rest =>
    some ⟨.object [], rest, by simp only [List.length_cons]; omega⟩
  | .mark .openObject :: rest =>
    match parseMembers? rest with
    | none => none
    | some ⟨members, rest', h⟩ =>
      some ⟨.object (ofPairs members), rest', by simp only [List.length_cons]; omega⟩
  | _ => none
termination_by (ts.length, 0)

/-- The items of a list, up to its closing bracket. -/
def parseItems? (ts : List Token) : Option (Parsed (List Json) ts.length) :=
  match parseValue? ts with
  | none => none
  | some ⟨item, .mark .closeList :: rest, h⟩ =>
    some ⟨[item], rest, by simp only [List.length_cons] at h; omega⟩
  | some ⟨item, .mark .comma :: rest, h⟩ =>
    have fewer : rest.length < ts.length := Nat.lt_of_succ_lt h
    match parseItems? rest with
    | none => none
    | some ⟨items, rest', h'⟩ => some ⟨item :: items, rest', by omega⟩
  | some _ => none
termination_by (ts.length, 1)

/-- The members of an object, up to its closing brace. -/
def parseMembers? (ts : List Token) : Option (Parsed (List (String × Json)) ts.length) :=
  match ts with
  | .text k :: .mark .colon :: rest =>
    match parseValue? rest with
    | none => none
    | some ⟨v, .mark .closeObject :: rest', h⟩ =>
      some ⟨[(k, v)], rest', by simp only [List.length_cons] at h ⊢; omega⟩
    | some ⟨v, .mark .comma :: rest', h⟩ =>
      have fewer : rest'.length < rest.length := Nat.lt_of_succ_lt h
      match parseMembers? rest' with
      | none => none
      | some ⟨members, rest'', h'⟩ =>
        some ⟨(k, v) :: members, rest'', by simp only [List.length_cons]; omega⟩
    | some _ => none
  | _ => none
termination_by (ts.length, 1)

end

/-- The value that a text writes. -/
def parse? (s : String) : Option Json :=
  match (tokenize? s.toList).bind fun ts => (parseValue? ts).map fun p => (p.result, p.rest) with
  | some (j, []) => some j
  | _ => none

end GatedPipeline.Json
