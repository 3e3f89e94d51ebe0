-- JSON values, their text, and the fields of an object.
import GatedPipeline.Pairs
import GatedPipeline.Time
import GatedPipeline.Value
namespace GatedPipeline
open GatedPipeline.Text GatedPipeline.Decimal

/-- A JSON value. A number with a point or an exponent is not a whole one. -/
inductive Json where
  | null
  | bool (b : Bool)
  | whole (n : Int)
  | number (x : Binary64)
  | text (s : String)
  | list (items : List Json)
  | object (members : List (String × Json))
  deriving Inhabited

namespace Json

/-! ## Writing -/

/-- A 16-bit unit as an escape. -/
def unitEscape (n : Nat) : List Char := '\\' :: 'u' :: hexDigits 4 n

/-- One character of a text. Only ASCII stands for itself; a character above U+FFFF takes two
units. -/
def escapeChar (c : Char) : List Char :=
  let n := c.toNat
  if c = '"' || c = '\\' then ['\\', c]
  else if 0x20 ≤ n && n < 0x7f then [c]
  else if n < 0x10000 then unitEscape n
  else unitEscape (0xd800 + (n - 0x10000) / 0x400) ++ unitEscape (0xdc00 + n % 0x400)

def quote (s : String) : String := String.ofList ('"' :: s.toList.flatMap escapeChar ++ ['"'])

mutual

/-- The text of a value, on one line. -/
def render : Json → String
  | .null => "null"
  | .bool b => if b then "true" else "false"
  | .whole n => toString n
  | .number x => x.text
  | .text s => quote s
  | .list items => "[" ++ ",".intercalate (renderItems items) ++ "]"
  | .object members => "\x7b" ++ ",".intercalate (renderMembers members) ++ "\x7d"

def renderItems : List Json → List String
  | [] => []
  | j :: js => j.render :: renderItems js

def renderMembers : List (String × Json) → List String
  | [] => []
  | (k, j) :: ms => (quote k ++ ":" ++ j.render) :: renderMembers ms

end

/-! ## Making values -/

def texts (ss : List String) : Json := .list (ss.map .text)

/-- A value that may be absent. -/
def optional {α : Type} (f : α → Json) : Option α → Json
  | some a => f a
  | none => .null

def optText (s : Option String) : Json := optional .text s

/-- An ordered map: a list of pairs. -/
def pairs {α : Type} (f : α → Json) (ps : List (String × α)) : Json :=
  .list (ps.map fun (k, v) => .list [.text k, f v])

/-- A map whose order does not count. -/
def map {α : Type} (f : α → Json) (ps : List (String × α)) : Json :=
  .object (ps.map fun (k, v) => (k, f v))

/-- A moment or a span: a whole number when it is one. -/
def time (t : Time) : Json :=
  if t.den = 1 then .whole t.num else .number (Binary64.ofRatio (t.num < 0) t.num.natAbs t.den)

mutual

/-- A value of a run. -/
def value : Value → Json
  | .text s => .text s
  | .bool b => .bool b
  | .null => .null
  | .whole n => .whole n
  | .number x => .number x
  | .list items => .list (valueItems items)
  | .mapping members => .object (valueMembers members)

def valueItems : List Value → List Json
  | [] => []
  | v :: vs => value v :: valueItems vs

def valueMembers : List (String × Value) → List (String × Json)
  | [] => []
  | (k, v) :: ms => (k, value v) :: valueMembers ms

end

/-! ## Reading fields -/

/-- The member of an object. -/
def member? (j : Json) (k : String) : Option Json :=
  match j with
  | .object ms => getPair? k ms
  | _ => none

/-- The member of an object, unless it is null. -/
def field? (j : Json) (k : String) : Option Json :=
  match j.member? k with
  | some .null => none
  | field => field

/-- The object in a field; without fields when there is none. -/
def objectAt (j : Json) (k : String) : Json := (j.field? k).getD (.object [])

def asText : Json → String
  | .text s => s
  | _ => ""

def textAt? (j : Json) (k : String) : Option String := (j.field? k).map asText

def textAt (j : Json) (k : String) (default : String := "") : String := (j.textAt? k).getD default

def asBool : Json → Bool
  | .bool b => b
  | _ => false

def flagAt (j : Json) (k : String) (default : Bool := false) : Bool :=
  ((j.field? k).map asBool).getD default

def asWhole : Json → Int
  | .whole n => n
  | _ => 0

def asTime : Json → Time
  | .whole n => n
  | .number x => x.toRat
  | _ => 0

def timeAt? (j : Json) (k : String) : Option Time := (j.field? k).map asTime

/-- The items of a list, the characters of a text or the keys of an object. -/
def asList : Json → List Json
  | .list js => js
  | .text s => s.toList.map fun c => .text (String.singleton c)
  | .object ms => ms.map fun m => .text m.1
  | _ => []

def listAt (j : Json) (k : String) : List Json := ((j.field? k).map asList).getD []

def textsAt (j : Json) (k : String) : List String := (j.listAt k).map asText

def asMembers : Json → List (String × Json)
  | .object ms => ms
  | _ => []

def membersAt (j : Json) (k : String) : List (String × Json) :=
  ((j.field? k).map asMembers).getD []

/-- A map with texts as values. -/
def asTextMap (j : Json) : List (String × String) := j.asMembers.map fun (k, v) => (k, v.asText)

def textMapAt (j : Json) (k : String) : List (String × String) := (j.objectAt k).asTextMap

/-- The pairs of an ordered map. Of two with one key the later one counts. -/
def asPairs (j : Json) : List (String × Json) :=
  match j with
  | .object ms => ms
  | j => ofPairs (j.asList.filterMap fun p =>
      match p.asList with
      | [k, v] => some (k.asText, v)
      | _ => none)

def pairsAt (j : Json) (k : String) : List (String × Json) := (j.objectAt k).asPairs

def textPairsAt (j : Json) (k : String) : List (String × String) :=
  (j.pairsAt k).map fun (a, b) => (a, b.asText)

mutual

/-- The value of a run that a JSON value stands for. -/
def toValue : Json → Value
  | .null => .null
  | .bool b => .bool b
  | .whole n => .whole n
  | .number x => .number x
  | .text s => .text s
  | .list items => .list (toValues items)
  | .object members => .mapping (toMembers members)

def toValues : List Json → List Value
  | [] => []
  | j :: js => j.toValue :: toValues js

def toMembers : List (String × Json) → List (String × Value)
  | [] => []
  | (k, j) :: ms => (k, j.toValue) :: toMembers ms

end

/-- An ordered map of values. -/
def asValuePairs (j : Json) : List (String × Value) := j.asPairs.map fun (k, v) => (k, v.toValue)

end Json

end GatedPipeline
