-- Texts of numbers with a chosen count of digits, each rounded exactly. Half
-- goes to the even neighbour.
import GatedPipeline.Decimal.Shortest
namespace GatedPipeline.Decimal

/-! ## Digits -/

/-- The digits of a whole number, with zeros before them up to `count`. -/
def digitsUpTo (count n : Nat) : List Char :=
  let ds := Nat.toDigits 10 n
  List.replicate (count - ds.length) '0' ++ ds

/-- The exponent of the first digit of a number that is not zero. -/
def firstExponent (units : Nat) : Int :=
  if Binary64.one ≤ units then (Nat.toDigits 10 (units / Binary64.one)).length - 1
  else -((Nat.toDigits 10 ((Binary64.one - 1) / units)).length : Int)

/-- The number in `count` digits, and the exponent of the first one. -/
def roundedDigits (units count : Nat) : List Char × Int :=
  if units = 0 then (List.replicate count '0', 0)
  else
    let e := firstExponent units
    let shift := (count : Int) - 1 - e
    let n := Binary64.divRound (units * Nat.pow 10 shift.toNat)
      (Binary64.one * Nat.pow 10 (-shift).toNat)
    if n < Nat.pow 10 count then (digitsUpTo count n, e) else (digitsUpTo count (n / 10), e + 1)

/-! ## Forms -/

/-- A whole part and a fraction. The point is left out before an empty fraction, unless it is
kept. -/
def pointed (keepPoint : Bool) (whole fraction : List Char) : List Char :=
  whole ++ if fraction.isEmpty && !keepPoint then [] else '.' :: fraction

/-- The number with `places` digits after the point. -/
def fixedText (keepPoint : Bool) (places units : Nat) : List Char :=
  let ds := digitsUpTo (places + 1)
    (Binary64.divRound (units * Nat.pow 10 places) Binary64.one)
  pointed keepPoint (ds.take (ds.length - places)) (ds.drop (ds.length - places))

/-- Digits with a power of ten, and a point after the first one. -/
def withExponent (keepPoint : Bool) (ds : List Char) (e : Int) : List Char :=
  pointed keepPoint (ds.take 1) (ds.drop 1) ++ 'e' :: exponentText e

/-- The number with a power of ten, and `places` digits after the point. -/
def exponentForm (keepPoint : Bool) (places units : Nat) : List Char :=
  let (ds, e) := roundedDigits units (places + 1)
  withExponent keepPoint ds e

/-- Digits without the zeros at the end. -/
def withoutLastZeros (ds : List Char) : List Char := (ds.reverse.dropWhile (· = '0')).reverse

/-- The number in at most `count` digits: positional when the exponent lies between -5 and
`count`, and else with a power of ten. Unless the point is kept, the zeros at the end of the
fraction are left out. -/
def generalText (keepPoint : Bool) (count units : Nat) : List Char :=
  let count := max 1 count
  let (ds, e) := roundedDigits units count
  let trim (fraction : List Char) := if keepPoint then fraction else withoutLastZeros fraction
  if -4 ≤ e && e < count then
    if 0 ≤ e then pointed keepPoint (ds.take (e.toNat + 1)) (trim (ds.drop (e.toNat + 1)))
    else pointed keepPoint ['0'] (trim (List.replicate (-e - 1).toNat '0' ++ ds))
  else withExponent keepPoint (ds.take 1 ++ trim (ds.drop 1)) e

end GatedPipeline.Decimal
