-- Conditions and their values as JSON values. A number is wrapped in its kind
-- and written as text, so that nothing of it is lost.
import GatedPipeline.Json.Basic
import GatedPipeline.Condition.Expr
namespace GatedPipeline

mutual

/-- A value with its kind. -/
def Value.described : Value → Json
  | .whole n => .object [("int", .text (toString n))]
  | .number x => .object [("float", .text x.text)]
  | .list vs => .list (describedAll vs)
  | .mapping ms => .object (describedMembers ms)
  | .text s => .text s
  | .bool b => .bool b
  | .null => .null

def describedAll : List Value → List Json
  | [] => []
  | v :: vs => v.described :: describedAll vs

def describedMembers : List (String × Value) → List (String × Json)
  | [] => []
  | (k, v) :: ms => (k, v.described) :: describedMembers ms

end

namespace Condition

mutual

/-- An expression as a list: its kind, and its parts. -/
def Expr.toJson : Expr → Json
  | .lit v => .list [.text "lit", v.described]
  | .ref r => .texts ["ref", r.name]
  | .or l r => .list [.text "or", l.toJson, r.toJson]
  | .and l r => .list [.text "and", l.toJson, r.toJson]
  | .not e => .list [.text "not", e.toJson]
  | .cmp op l r => .list [.text "cmp", .text op.lexeme, l.toJson, r.toJson]
  | .mem l r => .list [.text "in", l.toJson, r.toJson]
  | .list es => .list [.text "list", .list (exprsToJson es)]
  | .call f es => .list [.text "call", .text f.name, .list (exprsToJson es)]

def exprsToJson : List Expr → List Json
  | [] => []
  | e :: es => e.toJson :: exprsToJson es

end

end Condition

end GatedPipeline
