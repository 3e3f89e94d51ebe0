-- The text of a number of double precision: the fewest digits that read back
-- as the number, and of those the nearest.
import GatedPipeline.Decimal.Binary64
namespace GatedPipeline.Decimal

/-! ## The fewest digits

A number stands for all reals between the two midpoints to its neighbours. Each
decimal grid 10^p is tried, from the coarsest on; of its points only the two
around the number can lie between the midpoints. -/

/-- The midpoints around a finite number, in quarters of a unit. -/
def midpoints (units : Nat) : Nat × Nat :=
  let step := Nat.pow 2 (Binary64.lastBit units)
  let below := if units == Nat.pow 2 (Nat.log2 units) && step > 1 then step else 2 * step
  (4 * units - below, 4 * units + 2 * step)

/-- Whether `digits * 10^p` reads back as the number: it lies between the midpoints, or on one
of them when the last bit of the number is zero. -/
def readsBack (units digits : Nat) (p : Int) : Bool :=
  let num := 4 * digits * Nat.pow 10 p.toNat * Binary64.one
  let den := Nat.pow 10 (-p).toNat
  let (low, high) := midpoints units
  if units / Nat.pow 2 (Binary64.lastBit units) % 2 == 0 then low * den ≤ num && num ≤ high * den
  else low * den < num && num < high * den

/-- The point of the grid 10^p that reads back as the number, if there is one. Of two the nearer
is taken, and of two that are as near the even one. -/
def gridPoint? (units : Nat) (p : Int) : Option Nat :=
  let num := units * Nat.pow 10 (-p).toNat
  let den := Binary64.one * Nat.pow 10 p.toNat
  let nearest := Binary64.divRound num den
  let lower := num / den
  if readsBack units nearest p then some nearest
  else if readsBack units lower p then some lower
  else if readsBack units (lower + 1) p then some (lower + 1)
  else none

/-- The digits and the exponent on the first of the next `tries` grids that has a point. -/
def firstGrid (units : Nat) : Nat → Int → Nat × Int
  | 0, p => (0, p)
  | tries + 1, p =>
    match gridPoint? units p with
    | some digits => (digits, p)
    | none => firstGrid units tries (p - 1)

/-- The fewest digits that read back as the number, and the exponent of the last one. -/
def fewestDigits (units : Nat) : Nat × Int :=
  if units == 0 then (0, 0) else firstGrid units 700 309

/-! ## Writing -/

/-- Drops the zeros at the end of the digits; each raises the exponent by one. -/
def dropZeros : List Char → Int → List Char × Int
  | '0' :: ds, p => dropZeros ds (p + 1)
  | ds, p => (ds.reverse, p)

/-- The digits with a point `places` digits from the left. -/
def positional (digits : List Char) (places : Int) : List Char :=
  if places ≤ 0 then '0' :: '.' :: List.replicate (-places).toNat '0' ++ digits
  else if digits.length ≤ places.toNat then
    digits ++ List.replicate (places.toNat - digits.length) '0' ++ ['.', '0']
  else digits.take places.toNat ++ '.' :: digits.drop places.toNat

/-- The exponent with its sign and at least two digits. -/
def exponentText (e : Int) : List Char :=
  let ds := Nat.toDigits 10 e.natAbs
  (if e < 0 then '-' else '+') :: (if ds.length < 2 then '0' :: ds else ds)

/-- The digits with a power of ten. -/
def scientific (digits : List Char) (exponent : Int) : List Char :=
  match digits with
  | [] => []
  | [d] => d :: 'e' :: exponentText exponent
  | d :: ds => d :: '.' :: ds ++ 'e' :: exponentText exponent

/-- The text of a number. From 0.0001 up to but not including 10^16 it is positional, with a
digit on both sides of the point; elsewhere it has a power of ten. -/
def Binary64.text : Binary64 → String
  | .nan => "nan"
  | .infinite negative => if negative then "-inf" else "inf"
  | .finite negative units =>
    let (n, p) := fewestDigits units
    let (digits, p) := if n == 0 then (['0'], 0) else dropZeros (Nat.toDigits 10 n).reverse p
    let places : Int := digits.length + p
    let body := if -4 < places && places ≤ 16 then positional digits places
      else scientific digits (places - 1)
    String.ofList (if negative then '-' :: body else body)

end GatedPipeline.Decimal
