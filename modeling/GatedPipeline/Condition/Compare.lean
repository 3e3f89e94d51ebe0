-- How a condition compares values: the text and the number that each of them
-- reads as, and the comparisons.
import GatedPipeline.Decimal.Reading
import GatedPipeline.Value
namespace GatedPipeline.Condition
open GatedPipeline.Text GatedPipeline.Decimal

/-! ## Reading a value -/

/-- Why a value cannot be computed. -/
inductive EvalFault where
  /-- A reference that nothing answers, or a call with wrong arguments. -/
  | unresolved (message : String)
  /-- A whole number beyond the numbers of double precision. -/
  | tooLarge
  deriving DecidableEq, Repr

/-- The value as a text. Truth values are written in lower case, and nothing is the empty
text. -/
def asText : Value → String
  | .bool b => if b then "true" else "false"
  | .null => ""
  | v => v.shown

/-- The value as a number. Texts that write a number read as that number; truth values,
nothing, lists and mappings are no numbers. -/
def asNumber? : Value → Except EvalFault (Option Binary64)
  | .text s => .ok (readNumber? s)
  | .whole n => (Binary64.ofInt? n).elim (.error .tooLarge) fun x => .ok (some x)
  | .number x => .ok (some x)
  | .bool _ => .ok none
  | .null => .ok none
  | .list _ => .ok none
  | .mapping _ => .ok none

/-- The numbers that both values read as, if both read as one. -/
def numbers? (a b : Value) : Except EvalFault (Option (Binary64 × Binary64)) := do
  let x ← asNumber? a
  let y ← asNumber? b
  return match x, y with
    | some x, some y => some (x, y)
    | _, _ => none

/-! ## Comparing -/

/-- `a == b` of the language: values of one kind as they are, others as numbers if both read as
one, and else as texts. -/
def equals (a b : Value) : Except EvalFault Bool := do
  if a.kind = b.kind then return a.same b
  match ← numbers? a b with
  | some (x, y) => return x.same y
  | none => return asText a == asText b

inductive Comparison where
  | eq | ne | lt | le | gt | ge
  deriving DecidableEq, Repr

/-- The spelling of a comparison. -/
def Comparison.lexeme : Comparison → String
  | .eq => "==" | .ne => "!=" | .lt => "<" | .le => "<=" | .gt => ">" | .ge => ">="

/-- The comparison that goes with an order of texts. -/
def Comparison.ofTexts (op : Comparison) (a b : String) : Bool :=
  match op with
  | .eq => a == b
  | .ne => a != b
  | .lt => a < b
  | .le => !decide (b < a)
  | .gt => b < a
  | .ge => !decide (a < b)

/-- The comparison of two numbers. Only `!=` holds of a number that stands nowhere. -/
def Comparison.ofNumbers (op : Comparison) (a b : Binary64) : Bool :=
  match op with
  | .eq => a.same b
  | .ne => !a.same b
  | .lt => a.before b
  | .le => a.before b || a.same b
  | .gt => b.before a
  | .ge => b.before a || a.same b

/-- `a op b` of the language. An order compares numbers if both values read as one, and else
texts, character by character. -/
def Comparison.holds (op : Comparison) (a b : Value) : Except EvalFault Bool := do
  match op with
  | .eq => equals a b
  | .ne => return !(← equals a b)
  | _ =>
    match ← numbers? a b with
    | some (x, y) => return op.ofNumbers x y
    | none => return op.ofTexts (asText a) (asText b)

end GatedPipeline.Condition
