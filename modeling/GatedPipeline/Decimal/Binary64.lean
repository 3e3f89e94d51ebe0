-- Double-precision numbers, held exactly: a finite one is a whole number of
-- units of 2^-1074. Rounding, comparing and converting are integer arithmetic.
namespace GatedPipeline.Decimal

/-- A number of double precision. The units of a finite one are 2^-1074 each. -/
inductive Binary64 where
  | nan
  | infinite (negative : Bool)
  | finite (negative : Bool) (units : Nat)
  deriving DecidableEq, Repr, Inhabited

namespace Binary64

/-- How many bits a number of double precision holds. -/
def precision : Nat := 53

/-- One whole, in units. -/
def one : Nat := Nat.pow 2 1074

/-- The least number of units that is too large for a finite number: 2^1024. -/
def tooLarge : Nat := Nat.pow 2 2098

/-! ## Rounding -/

/-- `num / den` rounded to a whole number. Half goes to the even neighbour. -/
def divRound (num den : Nat) : Nat :=
  let q := num / den
  let r := num % den
  if 2 * r > den || (2 * r == den && q % 2 == 1) then q + 1 else q

/-- The exponent of the last bit that a number of this size holds. -/
def lastBit (units : Nat) : Nat := Nat.log2 units + 1 - precision

/-- The nearest number to `num / den`. Half goes to the neighbour with an even last bit. -/
def ofRatio (negative : Bool) (num den : Nat) : Binary64 :=
  let scaled := num * one
  let step := Nat.pow 2 (lastBit (scaled / den))
  let units := divRound scaled (den * step) * step
  if units < tooLarge then .finite negative units else .infinite negative

/-- The nearest number to a whole number; none when the whole number is too large. -/
def ofInt? (n : Int) : Option Binary64 :=
  match ofRatio (n < 0) n.natAbs 1 with
  | .infinite _ => none
  | x => some x

/-! ## Order -/

/-- Where a number stands on the line. `nan` stands nowhere, and the two zeros stand together. -/
def rank : Binary64 → Option Int
  | .nan => none
  | .infinite negative => some (if negative then -tooLarge else tooLarge)
  | .finite negative units => some (if negative then -units else units)

/-- Whether both stand at the same place. -/
def same (a b : Binary64) : Bool :=
  match a.rank, b.rank with
  | some x, some y => x == y
  | _, _ => false

/-- Whether `a` stands before `b`. -/
def before (a b : Binary64) : Bool :=
  match a.rank, b.rank with
  | some x, some y => x < y
  | _, _ => false

/-- Whether the number is exactly the whole number `n`. -/
def isInt (x : Binary64) (n : Int) : Bool :=
  match x with
  | .finite _ _ => x.rank == some (n * one)
  | _ => false

/-- The exact value of a finite number; zero for the others. -/
def toRat : Binary64 → Rat
  | .finite negative units => mkRat (if negative then -units else units) one
  | _ => 0

/-- Whether the number is zero. -/
def isZero : Binary64 → Bool
  | .finite _ units => units == 0
  | _ => false

end Binary64

end GatedPipeline.Decimal
