-- Values of any kind: texts, truth values, numbers, lists and mappings. Matrix
-- values, outputs and the values of a condition are such values.
import GatedPipeline.Pairs
import GatedPipeline.Text.Quoted
import GatedPipeline.Decimal.Shortest
namespace GatedPipeline
open GatedPipeline.Text GatedPipeline.Decimal

/-! ## Values -/

inductive Value where
  | text (s : String)
  | bool (b : Bool)
  | null
  | whole (n : Int)
  | number (x : Binary64)
  | list (items : List Value)
  /-- Values under texts, in the order in which they were written. -/
  | mapping (members : List (String × Value))
  deriving Inhabited

mutual

/-- The value as it stands inside the text of a list or a mapping. -/
def Value.inList : Value → String
  | .text s => quoted s
  | .bool b => if b then "True" else "False"
  | .null => "None"
  | .whole n => toString n
  | .number x => x.text
  | .list items => bracketed (inListAll items)
  | .mapping members => braced (membersShown members)

def inListAll : List Value → List String
  | [] => []
  | v :: vs => v.inList :: inListAll vs

def membersShown : List (String × Value) → List String
  | [] => []
  | (k, v) :: ms => (quoted k ++ ": " ++ v.inList) :: membersShown ms

end

/-- The value as it is shown on its own: a text as it is, all else as inside a list. -/
def Value.shown : Value → String
  | .text s => s
  | v => v.inList

/-- Whether the value counts as true: every value but the empty text, list and mapping, zero,
`false` and nothing. -/
def Value.truthy : Value → Bool
  | .text s => s != ""
  | .bool b => b
  | .null => false
  | .whole n => n != 0
  | .number x => !x.isZero
  | .list items => !items.isEmpty
  | .mapping members => !members.isEmpty

/-! ## Sameness -/

mutual

/-- The two values are the same one. Numbers compare exactly, the truth values are the
numbers one and zero, and the order of a mapping does not count. -/
def Value.same : Value → Value → Bool
  | .text a, .text b => a == b
  | .null, .null => true
  | .bool a, .bool b => a == b
  | .bool a, .whole n => n == a.toInt
  | .whole n, .bool a => n == a.toInt
  | .bool a, .number x => x.isInt a.toInt
  | .number x, .bool a => x.isInt a.toInt
  | .whole n, .whole m => n == m
  | .whole n, .number x => x.isInt n
  | .number x, .whole n => x.isInt n
  | .number x, .number y => x.same y
  | .list as, .list bs => sameAll as bs
  | .mapping as, .mapping bs => as.length == bs.length && sameMembers as bs
  | _, _ => false

def sameAll : List Value → List Value → Bool
  | [], [] => true
  | a :: as, b :: bs => a.same b && sameAll as bs
  | _, _ => false

/-- Every member of the first mapping is one of the second. -/
def sameMembers : List (String × Value) → List (String × Value) → Bool
  | [], _ => true
  | (k, a) :: as, bs => (getPair? k bs).any (fun b => a.same b) && sameMembers as bs

end

/-! ## Kinds and items -/

/-- The kind of a value. -/
inductive Kind where
  | text | bool | null | whole | number | list | mapping
  deriving DecidableEq, Repr

def Value.kind : Value → Kind
  | .text _ => .text
  | .bool _ => .bool
  | .null => .null
  | .whole _ => .whole
  | .number _ => .number
  | .list _ => .list
  | .mapping _ => .mapping

/-- The name of the kind of a value. -/
def Value.kindName (v : Value) : String :=
  match v.kind with
  | .text => "str" | .bool => "bool" | .null => "NoneType" | .whole => "int"
  | .number => "float" | .list => "list" | .mapping => "dict"

/-- What can be taken from a value one by one: the items of a list, the characters of a text, the
keys of a mapping. -/
def Value.items? : Value → Option (List Value)
  | .text s => some (s.toList.map fun c => .text (String.singleton c))
  | .list items => some items
  | .mapping members => some (members.map fun m => .text m.1)
  | .bool _ | .null | .whole _ | .number _ => none

end GatedPipeline
