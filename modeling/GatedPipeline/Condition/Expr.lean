-- Conditions as trees, and the references that a condition reads.
import GatedPipeline.Condition.Compare
namespace GatedPipeline.Condition
open GatedPipeline.Text

/-! ## References -/

/-- What the first part of a reference names. -/
inductive Root where
  | event | ref | branch | fork | actor | workflow | vars | matrix | outputs | release
  deriving DecidableEq, Repr

def Root.all : List Root :=
  [.event, .ref, .branch, .fork, .actor, .workflow, .vars, .matrix, .outputs, .release]

def Root.name : Root → String
  | .event => "event" | .ref => "ref" | .branch => "branch" | .fork => "fork"
  | .actor => "actor" | .workflow => "workflow" | .vars => "vars" | .matrix => "matrix"
  | .outputs => "outputs" | .release => "release"

def Root.ofName? (s : String) : Option Root := Root.all.find? (·.name == s)

/-- A dotted name with a known first part. -/
structure Reference where
  root : Root
  path : List String
  deriving DecidableEq, Repr

/-- The reference as it is written. -/
def Reference.name (r : Reference) : String := ".".intercalate (r.root.name :: r.path)

/-! ## Expressions -/

inductive Function where
  | startsWith | endsWith | contains | changed
  deriving DecidableEq, Repr

def Function.all : List Function := [.startsWith, .endsWith, .contains, .changed]

def Function.name : Function → String
  | .startsWith => "startsWith" | .endsWith => "endsWith"
  | .contains => "contains" | .changed => "changed"

def Function.ofName? (s : String) : Option Function := Function.all.find? (·.name == s)

inductive Expr where
  | lit (v : Value)
  | ref (r : Reference)
  | or (l r : Expr)
  | and (l r : Expr)
  | not (e : Expr)
  | cmp (op : Comparison) (l r : Expr)
  | mem (item container : Expr)
  | list (items : List Expr)
  | call (f : Function) (args : List Expr)
  deriving Inhabited

mutual

/-- The references of an expression in the order in which they are written, with repetitions. -/
def Expr.references : Expr → List Reference
  | .lit _ => []
  | .ref r => [r]
  | .or l r => l.references ++ r.references
  | .and l r => l.references ++ r.references
  | .not e => e.references
  | .cmp _ l r => l.references ++ r.references
  | .mem item container => item.references ++ container.references
  | .list items => referencesOfAll items
  | .call _ args => referencesOfAll args

def referencesOfAll : List Expr → List Reference
  | [] => []
  | e :: es => e.references ++ referencesOfAll es

end

/-! ## Why a text is no condition -/

/-- What is wrong with the text of a condition. -/
inductive ParseFault where
  | empty
  | badCharacter (position : Nat)
  | expected (lexeme : String)
  | expectedToken
  | unexpected (lexeme : String)
  | unknownFunction (name : String)
  | unknownReference (name : String)
  /-- A whole number with too many digits. -/
  | tooManyDigits (count : Nat)
  /-- A reference to an output that does not have three parts. -/
  | badOutputReference (name : String)
  deriving DecidableEq, Repr

/-- The fault in the text of an expression, in words. -/
def ParseFault.message (expression : String) : ParseFault → String
  | .empty => "Empty condition expression"
  | .badCharacter n => s!"Unexpected character at {n} in " ++ quoted expression
  | .expected lexeme => s!"Expected {lexeme} in " ++ quoted expression
  | .expectedToken => "Expected a token in " ++ quoted expression
  | .unexpected lexeme => "Unexpected " ++ quoted lexeme ++ " in " ++ quoted expression
  | .unknownFunction name => "Unknown function " ++ quoted name ++ " in " ++ quoted expression
  | .unknownReference name => "Unknown reference " ++ quoted name ++ " in " ++ quoted expression
  | .tooManyDigits count => Decimal.tooManyDigitsMessage count
  | .badOutputReference name =>
    "Output reference must be outputs.<stage>.<key>: " ++ quoted name

/-- The references to outputs, each as stage and key. One with another number of parts is a
fault. -/
def outputsOf : List Reference → Except ParseFault (List (String × String))
  | [] => .ok []
  | ⟨.outputs, [stage, key]⟩ :: rs => (outputsOf rs).map ((stage, key) :: ·)
  | r :: rs => if r.root = .outputs then .error (.badOutputReference r.name) else outputsOf rs

end GatedPipeline.Condition
