-- The parts of a TOML document that hold no others: blanks, comments, texts,
-- keys, numbers, dates and times.
import GatedPipeline.Decimal.Reading
import GatedPipeline.Toml.Basic
namespace GatedPipeline.Toml
open GatedPipeline.Text GatedPipeline.Decimal

/-! ## Faults -/

/-- What is wrong with a document. -/
inductive Fault where
  /-- It is no TOML. So many characters stood before its end when that was seen. -/
  | malformed (message : String) (remaining : Nat)
  /-- A whole number has more digits than may be read. -/
  | tooManyDigits (count : Nat)
  deriving DecidableEq, Repr

def fail {α : Type} (cs : List Char) (message : String) : Except Fault α :=
  .error (.malformed message cs.length)

/-- Where a fault is: its line and column, each counted from 1. -/
def position (source : List Char) (remaining : Nat) : String :=
  if remaining = 0 then "end of document"
  else
    let before := source.take (source.length - remaining)
    let line := before.count '\n' + 1
    let column := (before.reverse.takeWhile (· ≠ '\n')).length + 1
    s!"line {line}, column {column}"

/-! ## Blanks and comments -/

def isSpace (c : Char) : Bool := c = ' ' || c = '\t'

def isSpaceOrBreak (c : Char) : Bool := isSpace c || c = '\n'

/-- A control character, which no text and no comment holds. The tab is none of them. -/
def isControl (c : Char) : Bool := (c.toNat < 0x20 && c != '\t') || c.toNat = 0x7f

def isControlButBreak (c : Char) : Bool := isControl c && c != '\n'

def skipSpaces (cs : List Char) : List Char := cs.dropWhile isSpace

/-- Cuts at the first place where `stop` stands. -/
def cutBefore? (stop : List Char) : List Char → Option (List Char × List Char)
  | [] => if stop.isEmpty then some ([], []) else none
  | c :: cs =>
    if stop.isPrefixOf (c :: cs) then some ([], c :: cs)
    else (cutBefore? stop cs).map fun (a, b) => (c :: a, b)

/-- Refuses a piece of the document that has an illegal character. -/
def checkLegal (illegal : Char → Bool) (piece rest : List Char) : Except Fault Unit :=
  match piece.dropWhile fun c => !illegal c with
  | [] => .ok ()
  | c :: r => fail (c :: r ++ rest) ("Found invalid character " ++ quoted (String.singleton c))

/-- Skips a comment, up to the end of its line. -/
def skipComment (cs : List Char) : Except Fault (List Char) :=
  match cs with
  | '#' :: r => do
    let (comment, rest) := (cutBefore? ['\n'] r).getD (r, [])
    checkLegal isControl comment rest
    return rest
  | cs => .ok cs

/-- Skips blanks, line breaks and comments. -/
def skipLines (cs : List Char) : Except Fault (List Char) := do
  let rest ← skipComment (cs.dropWhile isSpaceOrBreak)
  if rest.length < cs.length then skipLines rest else return rest
termination_by cs.length

/-! ## Texts -/

/-- Reads a text in which nothing is escaped, up to `stop`. -/
def literalBody (stop : List Char) (illegal : Char → Bool) (cs : List Char) :
    Except Fault (String × List Char) :=
  match cutBefore? stop cs with
  | none => fail [] ("Expected " ++ quoted (String.ofList stop))
  | some (body, rest) => do
    checkLegal illegal body rest
    return (String.ofList body, rest.drop stop.length)

def isHexDigit (c : Char) : Bool :=
  c.isDigit || ('a' ≤ c && c ≤ 'f') || ('A' ≤ c && c ≤ 'F')

/-- The value of digits in a base. -/
def digitsIn (base : Nat) (ds : List Char) : Nat :=
  ds.foldl (fun n c => n * base +
    if c.isDigit then c.toNat - '0'.toNat else c.toLower.toNat - 'a'.toNat + 10) 0

/-- Reads the number of a character in `width` digits. -/
def hexChar (width : Nat) (cs : List Char) : Except Fault (List Char × List Char) :=
  let ds := cs.take width
  let n := digitsIn 16 ds
  if ds.length != width || !ds.all isHexDigit then fail cs "Invalid hex value"
  else if n < 0xd800 || (0xe000 ≤ n && n < 0x110000) then .ok ([Char.ofNat n], cs.drop width)
  else fail (cs.drop width) "Escaped character is not a Unicode scalar value"

/-- Skips the blanks after a backslash: the rest of its line, and all blanks after that. -/
def skipFolded (cs : List Char) : Except Fault (List Char × List Char) :=
  match skipSpaces cs with
  | [] => .ok ([], [])
  | '\n' :: r => .ok ([], r.dropWhile isSpaceOrBreak)
  | c :: r => fail (c :: r) "Unescaped '\\' in a string"

/-- Reads what follows a backslash. -/
def escape (multiline : Bool) (cs : List Char) : Except Fault (List Char × List Char) :=
  match cs with
  | [] => fail [] "Unescaped '\\' in a string"
  | c :: r =>
    if multiline && isSpaceOrBreak c then skipFolded (c :: r)
    else match c with
      | 'u' => hexChar 4 r
      | 'U' => hexChar 8 r
      | 'b' => .ok (['\x08'], r)
      | 't' => .ok (['\t'], r)
      | 'n' => .ok (['\n'], r)
      | 'f' => .ok (['\x0c'], r)
      | 'r' => .ok (['\r'], r)
      | '"' => .ok (['"'], r)
      | '\\' => .ok (['\\'], r)
      | _ => fail r "Unescaped '\\' in a string"

/-- Reads a text with escapes, up to its closing quotes. -/
def basicBody (multiline : Bool) (cs : List Char) : Except Fault (List Char × List Char) :=
  match cs with
  | [] => fail [] "Unterminated string"
  | '"' :: r =>
    if !multiline then .ok ([], r)
    else if ['"', '"'].isPrefixOf r then .ok ([], r.drop 2)
    else do
      let (body, rest) ← basicBody multiline r
      return ('"' :: body, rest)
  | '\\' :: r => do
    let (piece, r') ← escape multiline r
    if r'.length ≤ r.length then
      let (body, rest) ← basicBody multiline r'
      return (piece ++ body, rest)
    else fail r' "Unterminated string"
  | c :: r =>
    if (if multiline then isControlButBreak c else isControl c) then
      fail (c :: r) ("Illegal character " ++ quoted (String.singleton c))
    else do
      let (body, rest) ← basicBody multiline r
      return (c :: body, rest)
termination_by cs.length

/-- Up to two quotes that stand before the closing ones belong to the text. -/
def extraQuotes (mark : Char) (body : String) (cs : List Char) : String × List Char :=
  let extra := (cs.take 2).takeWhile (· = mark)
  (body ++ String.ofList extra, cs.drop extra.length)

/-- Reads a text of several lines. A line break after the opening quotes does not count. -/
def multilineText (mark : Char) (cs : List Char) : Except Fault (String × List Char) := do
  let cs := match cs with
    | '\n' :: r => r
    | cs => cs
  if mark = '"' then
    let (body, rest) ← basicBody true cs
    return extraQuotes mark (String.ofList body) rest
  else
    let (body, rest) ← literalBody [mark, mark, mark] isControlButBreak cs
    return extraQuotes mark body rest

/-- Reads a text of one line. -/
def plainText (mark : Char) (cs : List Char) : Except Fault (String × List Char) :=
  if mark = '"' then do
    let (body, rest) ← basicBody false cs
    return (String.ofList body, rest)
  else literalBody [mark] isControl cs

/-- Reads a text after its first quote. -/
def quotedText (mark : Char) (cs : List Char) : Except Fault (String × List Char) :=
  if [mark, mark].isPrefixOf cs then multilineText mark (cs.drop 2) else plainText mark cs

/-! ## Keys -/

def isBareKeyChar (c : Char) : Bool := c.isAlphanum || c = '-' || c = '_'

/-- Whether a key may begin with the character. -/
def beginsKey (c : Char) : Bool := isBareKeyChar c || c = '"' || c = '\''

/-- Reads one part of a key. -/
def keyPart (cs : List Char) : Except Fault (String × List Char) :=
  match cs with
  | '"' :: r => plainText '"' r
  | '\'' :: r => plainText '\'' r
  | cs =>
    if cs.head?.any isBareKeyChar then
      .ok (String.ofList (cs.takeWhile isBareKeyChar), cs.dropWhile isBareKeyChar)
    else fail cs "Invalid initial character for a key part"

/-- Reads a key: parts with dots between them, and the blanks after it. -/
def key (cs : List Char) : Except Fault (List String × List Char) := do
  let (part, rest) ← keyPart cs
  match skipSpaces rest with
  | '.' :: r =>
    if (skipSpaces r).length < cs.length then
      let (parts, rest) ← key (skipSpaces r)
      return (part :: parts, rest)
    else fail r "Invalid initial character for a key part"
  | rest => return ([part], rest)
termination_by cs.length

/-- A key as messages show it. -/
def keyShown : List String → String
  | [part] => "(" ++ quoted part ++ ",)"
  | parts => "(" ++ ", ".intercalate (parts.map quoted) ++ ")"

/-! ## Numbers -/

/-- The digits at the start, with single underscores between them, and the rest. -/
def digitRun (isDigit : Char → Bool) : List Char → List Char × List Char
  | [] => ([], [])
  | [c] => if isDigit c then ([c], []) else ([], [c])
  | c :: d :: r =>
    if isDigit c then
      let (ds, rest) :=
        if d = '_' && r.head?.any isDigit then digitRun isDigit r else digitRun isDigit (d :: r)
      (c :: ds, rest)
    else ([], c :: d :: r)

/-- A whole number in another base: the digits after `0x`, `0b` or `0o`. -/
def based? (cs : List Char) : Option (Toml × List Char) :=
  let read (base : Nat) (isDigit : Char → Bool) (r : List Char) :=
    match digitRun isDigit r with
    | ([], _) => none
    | (ds, rest) => some (Toml.whole (digitsIn base ds), rest)
  match cs with
  | '0' :: 'x' :: r => read 16 isHexDigit r
  | '0' :: 'b' :: r => read 2 (fun c => c = '0' || c = '1') r
  | '0' :: 'o' :: r => read 8 (fun c => '0' ≤ c && c ≤ '7') r
  | _ => none

/-- A point with digits after it. -/
def fractionPart (cs : List Char) : List Char × List Char :=
  match cs with
  | '.' :: r =>
    match digitRun Char.isDigit r with
    | ([], _) => ([], cs)
    | (ds, rest) => ('.' :: ds, rest)
  | cs => ([], cs)

/-- An exponent with its letter and sign. -/
def exponentPart (cs : List Char) : List Char × List Char :=
  match cs with
  | [] => ([], [])
  | e :: r =>
    if e = 'e' || e = 'E' then
      let (negative, r') := takeSign r
      match digitRun Char.isDigit r' with
      | ([], _) => ([], cs)
      | (ds, rest) => ('e' :: (if negative then '-' :: ds else ds), rest)
    else ([], cs)

/-- The parts of a number in base ten. -/
structure DecimalParts where
  negative : Bool
  digits : List Char
  fraction : List Char
  exponent : List Char

/-- A number in base ten. One that begins with zero has no more digits before the point. -/
def decimal? (cs : List Char) : Option (DecimalParts × List Char) :=
  let (negative, r) := takeSign cs
  let (digits, r) := match r with
    | '0' :: r => (['0'], r)
    | r => digitRun Char.isDigit r
  let (fraction, r) := fractionPart r
  let (exponent, r) := exponentPart r
  if digits.isEmpty then none else some (⟨negative, digits, fraction, exponent⟩, r)

/-- The value of a number in base ten. Only a whole number can have too many digits. -/
def DecimalParts.value (d : DecimalParts) : Except Fault Toml :=
  if d.fraction.isEmpty && d.exponent.isEmpty then
    match wholeOfDigits d.digits with
    | .ok n => .ok (.whole (if d.negative then -(n : Int) else n))
    | .error _ => .error (.tooManyDigits d.digits.length)
  else
    let sign := if d.negative then ['-'] else []
    let text := String.ofList (sign ++ d.digits ++ d.fraction ++ d.exponent)
    .ok (.number ((readNumber? text).getD .nan))

/-- The numbers that are words. -/
def wordNumber? (cs : List Char) : Option (Toml × List Char) :=
  let (negative, r) := takeSign cs
  if "inf".toList.isPrefixOf r then some (.number (.infinite negative), r.drop 3)
  else if "nan".toList.isPrefixOf r then some (.number .nan, r.drop 3)
  else none

/-! ## Dates and times -/

/-- A number of exactly `width` digits, from `low` to `high`. -/
def fixed? (width low high : Nat) (cs : List Char) : Option (Nat × List Char) :=
  let ds := cs.take width
  let n := digitsIn 10 ds
  if ds.length = width && ds.all Char.isDigit && low ≤ n && n ≤ high then
    some (n, cs.drop width)
  else none

def expect? (c : Char) : List Char → Option (List Char)
  | [] => none
  | d :: r => if d = c then some r else none

/-- The digits after the point of a second, of which six count. -/
def microsPart (cs : List Char) : Nat × List Char :=
  match cs with
  | '.' :: r =>
    match r.takeWhile Char.isDigit with
    | [] => (0, cs)
    | ds =>
      let six := ds.take 6
      (digitsIn 10 six * Nat.pow 10 (6 - six.length), r.dropWhile Char.isDigit)
  | cs => (0, cs)

def clock? (cs : List Char) : Option (ClockTime × List Char) := do
  let (hour, r) ← fixed? 2 0 23 cs
  let (minute, r) ← fixed? 2 0 59 (← expect? ':' r)
  let (second, r) ← fixed? 2 0 59 (← expect? ':' r)
  let (micros, r) := microsPart r
  return (⟨hour, minute, second, micros⟩, r)

def date? (cs : List Char) : Option (CalendarDate × List Char) := do
  let (year, r) ← fixed? 4 0 9999 cs
  let (month, r) ← fixed? 2 1 12 (← expect? '-' r)
  let (day, r) ← fixed? 2 1 31 (← expect? '-' r)
  return (⟨year, month, day⟩, r)

/-- The distance from the zero meridian, if it is given. -/
def offset? (cs : List Char) : Option (Int × List Char) :=
  match cs with
  | [] => none
  | c :: r =>
    if c = 'Z' || c = 'z' then some (0, r)
    else if c = '+' || c = '-' then do
      let (hours, r) ← fixed? 2 0 23 r
      let (minutes, r) ← fixed? 2 0 59 (← expect? ':' r)
      let span : Int := 60 * hours + minutes
      return (if c = '-' then -span else span, r)
    else none

/-- The time of day after a date. -/
def timeAfterDate? (cs : List Char) : Option (ClockTime × List Char) :=
  match cs with
  | [] => none
  | c :: r => if c = 'T' || c = 't' || c = ' ' then clock? r else none

/-- A date, alone or with a time. -/
def moment? (cs : List Char) : Option (CalendarDate × Toml × List Char) := do
  let (d, r) ← date? cs
  match timeAfterDate? r with
  | none => return (d, .date d, r)
  | some (c, r) =>
    match offset? r with
    | some (offset, r) => return (d, .moment d c (some offset), r)
    | none => return (d, .moment d c none, r)

end GatedPipeline.Toml
