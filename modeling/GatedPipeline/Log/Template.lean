-- Message templates. A directive is a percent sign, perhaps flags, a width and
-- a precision, and a letter; a value takes its place. The values stand in order or
-- have names.
import GatedPipeline.Value
import GatedPipeline.Decimal.Places
namespace GatedPipeline
open GatedPipeline.Text GatedPipeline.Decimal

/-! ## Faults -/

/-- A number inside a directive: the least length of what is written, or how exact it is. -/
inductive Amount where
  | width | precision
  deriving DecidableEq, Repr

namespace Amount

def name : Amount → String
  | .width => "width" | .precision => "precision"

/-- The greatest amount: of machine words of 64 and of 32 bits with a sign. -/
def limit : Amount → Nat
  | .width => Nat.pow 2 63 - 1 | .precision => Nat.pow 2 31 - 1

/-- The name of the machine word that holds the amount. -/
def word : Amount → String
  | .width => "ssize_t" | .precision => "int"

end Amount

/-- Why a template cannot be filled in. -/
inductive FillFault where
  | tooFew
  | tooMany
  | incomplete
  /-- The directive names its value, but the values have no names. -/
  | needsNames
  /-- The name in a directive is never closed. -/
  | incompleteName
  | unknownName (name : String)
  /-- More digits than an amount may have. -/
  | tooBig (what : Amount)
  /-- A value that is to be an amount is too large for it. -/
  | starTooLarge (what : Amount)
  /-- More digits are asked for than a whole number can be written with. -/
  | precisionTooLarge
  /-- What is to be written has no room in memory. -/
  | noRoom
  /-- A width or a precision is to be given by a value that is not a whole number. -/
  | starNeedsWhole
  | needsWhole (directive : Char) (kind : String)
  | needsReal (directive : Char) (kind : String)
  | needsNumber (kind : String)
  | needsCharacter
  | characterOutOfRange
  | nanAsWhole
  | infiniteAsWhole
  | wholeTooLarge
  | unsupported (letter : Char) (index : Nat)
  deriving DecidableEq, Repr

def FillFault.message : FillFault → String
  | .tooFew => "not enough arguments for format string"
  | .tooMany => "not all arguments converted during string formatting"
  | .incomplete => "incomplete format"
  | .needsNames => "format requires a mapping"
  | .incompleteName => "incomplete format key"
  | .unknownName name => name
  | .tooBig what => what.name ++ " too big"
  | .starTooLarge what => "Python int too large to convert to C " ++ what.word
  | .precisionTooLarge => "precision too large"
  | .noRoom => ""
  | .starNeedsWhole => "* wants int"
  | .needsWhole d kind => s!"%{d} format: an integer is required, not {kind}"
  | .needsReal d kind => s!"%{d} format: a real number is required, not {kind}"
  | .needsNumber kind => s!"must be real number, not {kind}"
  | .needsCharacter => "%c requires int or char"
  | .characterOutOfRange => "%c arg not in range(0x110000)"
  | .nanAsWhole => "cannot convert float NaN to integer"
  | .infiniteAsWhole => "cannot convert float infinity to integer"
  | .wholeTooLarge => "int too large to convert to float"
  | .unsupported c index =>
    let shown := if 31 ≤ c.toNat && c.toNat < 127 then c else '?'
    "unsupported format character '" ++ String.singleton shown ++ "' (0x" ++
      String.ofList (Nat.toDigits 16 c.toNat) ++ s!") at index {index}"

/-! ## Directives -/

structure Directive where
  /-- The characters of the flags. -/
  flags : List Char
  width : Int := 0
  precision : Option Nat := none
  letter : Char

namespace Directive

def isFlag (c : Char) : Bool := ['-', '+', ' ', '#', '0'].contains c

/-- Blanks go to the right of the text. A negative width says the same. -/
def left (d : Directive) : Bool := d.flags.contains '-' || d.width < 0

/-- The other form: a mark before the digits, or a point that is always there. -/
def alternate (d : Directive) : Bool := d.flags.contains '#'

/-- What stands before a number. -/
def sign (d : Directive) (negative : Bool) : String :=
  if negative then "-"
  else if d.flags.contains '+' then "+"
  else if d.flags.contains ' ' then " "
  else ""

end Directive

/-- A value as a whole number, if it is one. -/
def Value.asWhole? : Value → Option Int
  | .whole n => some n
  | .bool b => some b.toInt
  | _ => none

/-- The values for a template. -/
structure Supply where
  /-- Those to be taken next, in order. -/
  values : List Value
  /-- Those that have names, if there are such. -/
  names : Option (List (String × Value)) := none

/-- The values of a message. A lone mapping that is not empty gives its members by name, and
stands itself for a value without a name. -/
def Supply.ofArgs (args : List Value) : Supply :=
  match args with
  | [.mapping (m :: ms)] => { values := args, names := some (m :: ms) }
  | args => { values := args }

/-- Values that stand in order are all to be used. -/
def Supply.unused (s : Supply) : Bool := s.names.isNone && !s.values.isEmpty

/-- Reads a number of a directive: digits, or a star for the next value. -/
def readAmount (what : Amount) (cs : List Char) (args : List Value) :
    Except FillFault (Option Int × List Char × List Value) :=
  match cs, args with
  | '*' :: _, [] => .error .tooFew
  | '*' :: cs, v :: args =>
    match v.asWhole? with
    | some n =>
      if -(what.limit : Int) - 1 ≤ n && n ≤ what.limit then .ok (some n, cs, args)
      else .error (.starTooLarge what)
    | none => .error .starNeedsWhole
  | cs, args =>
    let ds := cs.takeWhile Char.isDigit
    let n : Nat := ds.foldl (fun n c => n * 10 + (c.toNat - '0'.toNat)) 0
    if what.limit < n then .error (.tooBig what)
    else .ok (if ds.isEmpty then none else some n, cs.dropWhile Char.isDigit, args)

/-- Reads the precision of a directive, if it has one. -/
def readPrecision (cs : List Char) (args : List Value) :
    Except FillFault (Option Nat × List Char × List Value) :=
  match cs with
  | '.' :: cs =>
    (readAmount .precision cs args).map fun (n, rest) => (some (n.getD 0).toNat, rest)
  | cs => .ok (none, cs, args)

/-- Splits at the bracket that closes one that is already open; `depth` more are open. -/
def cutName? : Nat → List Char → Option (List Char × List Char)
  | _, [] => none
  | 0, ')' :: cs => some ([], cs)
  | depth + 1, ')' :: cs => (cutName? depth cs).map fun (name, rest) => (')' :: name, rest)
  | depth, '(' :: cs => (cutName? (depth + 1) cs).map fun (name, rest) => ('(' :: name, rest)
  | depth, c :: cs => (cutName? depth cs).map fun (name, rest) => (c :: name, rest)

/-- Reads the name in a directive, if it has one. The value of that name is then the only one
to be taken. -/
def readName (cs : List Char) (s : Supply) : Except FillFault (List Char × Supply) :=
  match cs with
  | '(' :: cs =>
    match s.names with
    | none => .error .needsNames
    | some names =>
      match cutName? 0 cs with
      | none => .error .incompleteName
      | some (name, rest) =>
        match getPair? (String.ofList name) names with
        | some v => .ok (rest, { s with values := [v] })
        | none => .error (.unknownName (String.ofList name))
  | cs => .ok (cs, s)

/-- Drops a letter about the size of a number, which says nothing here. -/
def dropSize (cs : List Char) : List Char :=
  match cs with
  | 'h' :: r | 'l' :: r | 'L' :: r => r
  | cs => cs

/-- Reads a directive after its percent sign. Gives it with the characters and the values that
are left. -/
def readDirective (cs : List Char) (s : Supply) :
    Except FillFault (Directive × List Char × Supply) := do
  let (cs, s) ← readName cs s
  let flags := cs.takeWhile Directive.isFlag
  let (width, cs, values) ← readAmount .width (cs.dropWhile Directive.isFlag) s.values
  let (precision, cs, values) ← readPrecision cs values
  match dropSize cs with
  | [] => throw .incomplete
  | letter :: rest =>
    return ({ flags, width := width.getD 0, precision, letter }, rest, { s with values })

/-! ## Texts of values -/

namespace Directive

/-- A text in its width, with blanks on one side. -/
def placed (d : Directive) (s : String) : String :=
  let blanks := String.ofList (List.replicate (d.width.natAbs - s.length) ' ')
  if d.left then s ++ blanks else blanks ++ s

/-- A number in its width. Zeros go between the sign and the digits. -/
def placedNumber (d : Directive) (sign : String) (body : List Char) : String :=
  let taken := sign.length + body.length
  let zeros := if d.flags.contains '0' && !d.left then d.width.natAbs - taken else 0
  d.placed (sign ++ String.ofList (List.replicate zeros '0' ++ body))

/-- The text of a value, cut to the precision. -/
def text (d : Directive) (s : String) : String :=
  d.placed (match d.precision with
    | some n => String.ofList (s.toList.take n)
    | none => s)

/-- A whole number in a base. The precision is the least count of digits; with a sign and a mark
they are no more than the greatest amount. -/
def whole (d : Directive) (base : Nat) (mark : String) (n : Int) : Except FillFault String := do
  if Amount.precision.limit - 3 < d.precision.getD 0 then throw .precisionTooLarge
  let ds := Nat.toDigits base n.natAbs
  let ds := List.replicate (d.precision.getD 0 - ds.length) '0' ++ ds
  let ds := if d.letter = 'X' then ds.map Char.toUpper else ds
  return d.placedNumber (d.sign (n < 0) ++ if d.alternate then mark else "") ds

/-- A number that is not whole. The precision is six unless given. -/
def real (d : Directive) (x : Binary64) : String :=
  let precision := d.precision.getD 6
  let body (units : Nat) : List Char :=
    match d.letter.toLower with
    | 'e' => exponentForm d.alternate precision units
    | 'f' => fixedText d.alternate precision units
    | _ => generalText d.alternate precision units
  let (negative, body) := match x with
    | .nan => (false, "nan".toList)
    | .infinite negative => (negative, "inf".toList)
    | .finite negative units => (negative, body units)
  d.placedNumber (d.sign negative) (if d.letter.isUpper then body.map Char.toUpper else body)

/-! ## Filling in -/

/-- A value as the whole number that is written, cut toward zero. -/
def cutToWhole (d : Directive) (v : Value) : Except FillFault Int :=
  match v with
  | .number .nan => .error .nanAsWhole
  | .number (.infinite _) => .error .infiniteAsWhole
  | .number x => .ok (x.toRat.num.tdiv x.toRat.den)
  | v =>
    match v.asWhole? with
    | some n => .ok n
    | none => .error (.needsReal d.letter v.kindName)

def exactWhole (d : Directive) (v : Value) : Except FillFault Int :=
  match v.asWhole? with
  | some n => .ok n
  | none => .error (.needsWhole d.letter v.kindName)

def asReal (v : Value) : Except FillFault Binary64 :=
  match v, v.asWhole? with
  | .number x, _ => .ok x
  | _, some n =>
    match Binary64.ofInt? n with
    | some x => .ok x
    | none => .error .wholeTooLarge
  | v, none => .error (.needsNumber v.kindName)

/-- The character that a value stands for: that of a text of one, or that of a number. -/
def asCharacter (v : Value) : Except FillFault Char :=
  match v with
  | .text s =>
    match s.toList with
    | [c] => .ok c
    | _ => .error .needsCharacter
  | v =>
    match v.asWhole? with
    | some n =>
      if 0 ≤ n && n < 0x110000 then .ok (Char.ofNat n.toNat) else .error .characterOutOfRange
    | none => .error .needsCharacter

/-- The text with a number in the place of each character that is not ASCII. -/
def plainText (s : String) : String :=
  String.join (s.toList.map fun c =>
    let numbered (mark : String) (width : Nat) :=
      let ds := Nat.toDigits 16 c.toNat
      mark ++ String.ofList (List.replicate (width - ds.length) '0' ++ ds)
    if c.toNat < 0x80 then String.singleton c
    else if c.toNat < 0x100 then numbered "\\x" 2
    else if c.toNat < 0x10000 then numbered "\\u" 4
    else numbered "\\U" 8)

/-- The text of a value at the place of a directive, whose letter stands at `index`. -/
def fill (d : Directive) (index : Nat) (v : Value) : Except FillFault String :=
  match d.letter with
  | 's' => .ok (d.text v.shown)
  | 'r' => .ok (d.text v.inList)
  | 'a' => .ok (d.text (plainText v.inList))
  | 'd' | 'i' | 'u' => (d.cutToWhole v).bind (d.whole 10 "")
  | 'o' => (d.exactWhole v).bind (d.whole 8 "0o")
  | 'x' => (d.exactWhole v).bind (d.whole 16 "0x")
  | 'X' => (d.exactWhole v).bind (d.whole 16 "0X")
  | 'e' | 'E' | 'f' | 'F' | 'g' | 'G' => (asReal v).map d.real
  | 'c' => (asCharacter v).map fun c => d.placed (String.singleton c)
  | c => .error (.unsupported c index)

/-- Wider texts have no room in memory. -/
def roomLimit : Nat := Nat.pow 2 36

/-- The text of a value, unless its place is too wide. -/
def fillPlace (d : Directive) (index : Nat) (v : Value) : Except FillFault String := do
  if d.width.natAbs < roomLimit then d.fill index v
  else
    let _ ← { d with width := 0 }.fill index v
    throw .noRoom

end Directive

/-- The template with values in the places of its directives. Two percent signs stand for one. -/
def fillTemplate (size : Nat) (cs : List Char) (s : Supply) : Except FillFault (List Char) :=
  match cs with
  | [] => if s.unused then .error .tooMany else .ok []
  | '%' :: '%' :: cs => (fillTemplate size cs s).map ('%' :: ·)
  | '%' :: cs => do
    let (d, rest, s) ← readDirective cs s
    if rest.length < cs.length then
      match s.values with
      | [] => throw .tooFew
      | v :: values =>
        let text ← d.fillPlace (size - rest.length - 1) v
        return text.toList ++ (← fillTemplate size rest { s with values })
    else throw .incomplete
  | c :: cs => (fillTemplate size cs s).map (c :: ·)
termination_by cs.length

end GatedPipeline
