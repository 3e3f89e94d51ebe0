-- Reading numbers from text. Blanks around a number do not count, digits of
-- every script do, and a single underscore may stand between two digits.
import GatedPipeline.Text.Blank
import GatedPipeline.Text.Digit
import GatedPipeline.Decimal.Binary64
namespace GatedPipeline.Decimal
open GatedPipeline.Text

/-! ## Parts of a number -/

/-- Blanks that may stand around a number. The separator controls may not. -/
def isMargin (c : Char) : Bool := isBlank c && !(0x1c ≤ c.toNat && c.toNat ≤ 0x1f)

/-- The text of a number without the blanks around it. -/
def withoutMargin (cs : List Char) : List Char :=
  ((cs.dropWhile isMargin).reverse.dropWhile isMargin).reverse

/-- The sign of a number, and the rest. -/
def takeSign : List Char → Bool × List Char
  | '-' :: cs => (true, cs)
  | '+' :: cs => (false, cs)
  | cs => (false, cs)

/-- The digits at the start, and the rest. An underscore between two digits is passed over. -/
def takeDigits : List Char → List Char × List Char
  | [] => ([], [])
  | [c] => if isDigit c then ([c], []) else ([], [c])
  | c :: d :: r =>
    if isDigit c then
      let (ds, rest) := if d = '_' && r.head?.any isDigit then takeDigits r else takeDigits (d :: r)
      (c :: ds, rest)
    else ([], c :: d :: r)

/-! ## Whole numbers -/

/-- Why a text is no whole number. -/
inductive WholeFault where
  | malformed
  /-- More digits than a whole number may have. -/
  | tooManyDigits (count : Nat)
  deriving DecidableEq, Repr

/-- The most digits that a whole number may have. -/
def maxDigits : Nat := 4300

/-- The message about a whole number with too many digits. -/
def tooManyDigitsMessage (count : Nat) : String :=
  s!"Exceeds the limit ({maxDigits} digits) for integer string conversion: " ++
    s!"value has {count} digits; use sys.set_int_max_str_digits() to increase the limit"

/-- The message about a whole number that has too many digits to be shown. -/
def tooLongToShowMessage : String :=
  s!"Exceeds the limit ({maxDigits} digits) for integer string conversion; " ++
    "use sys.set_int_max_str_digits() to increase the limit"

/-- Whether a whole number has so few digits that it can be shown. -/
def isShowable (n : Int) : Bool := n.natAbs < Nat.pow 10 maxDigits

/-- The number with these digits. -/
def wholeOfDigits (ds : List Char) : Except WholeFault Nat :=
  if ds.length > maxDigits then .error (.tooManyDigits ds.length) else .ok (ofDigits ds)

/-- Reads a whole number. The digits are counted before what follows them is looked at, but an
underscore that is out of place is seen at once. -/
def readWhole (s : String) : Except WholeFault Int := do
  let (negative, cs) := takeSign (withoutMargin s.toList)
  let (ds, rest) := takeDigits cs
  if rest.head? = some '_' then throw .malformed
  let n ← wholeOfDigits ds
  if ds.isEmpty || !rest.isEmpty then throw .malformed
  return if negative then -(n : Int) else n

/-! ## Numbers of double precision -/

/-- The nearest number to `digits * 10^exponent`. The two ends of the range are answered
at once, so that a far exponent costs nothing. -/
def ofScientific (negative : Bool) (digits : Nat) (exponent : Int) : Binary64 :=
  let size : Int := (Nat.toDigits 10 digits).length + exponent
  if digits == 0 || size < -400 then .finite negative 0
  else if size > 400 then .infinite negative
  else Binary64.ofRatio negative (digits * Nat.pow 10 exponent.toNat) (Nat.pow 10 (-exponent).toNat)

/-- The number of an exponent part; none when it is malformed. An absent one is zero. -/
def readExponent? : List Char → Option Int
  | [] => some 0
  | c :: cs =>
    if c = 'e' || c = 'E' then
      let (negative, r) := takeSign cs
      let (ds, rest) := takeDigits r
      if ds.isEmpty || !rest.isEmpty then none
      else some (if negative then -(ofDigits ds : Int) else ofDigits ds)
    else none

/-- The number with this text, which has no sign. -/
def readUnsigned? (negative : Bool) (cs : List Char) : Option Binary64 :=
  let word := cs.map Char.toLower
  if word = "inf".toList || word = "infinity".toList then some (.infinite negative)
  else if word = "nan".toList then some .nan
  else
    let (whole, r) := takeDigits cs
    let (fraction, r) := match r with
      | '.' :: r => takeDigits r
      | r => ([], r)
    if whole.isEmpty && fraction.isEmpty then none
    else (readExponent? r).map fun e =>
      ofScientific negative (ofDigits (whole ++ fraction)) (e - fraction.length)

/-- Reads a number of double precision: digits with or without a point and an exponent, or
`inf`, `infinity` or `nan` in any case. -/
def readNumber? (s : String) : Option Binary64 :=
  let (negative, cs) := takeSign (withoutMargin s.toList)
  readUnsigned? negative cs

end GatedPipeline.Decimal
