-- Evaluating conditions. Whatever cannot be resolved makes the whole condition
-- false.
import GatedPipeline.Text.Glob
import GatedPipeline.Trigger
import GatedPipeline.Condition.Parser
namespace GatedPipeline.Condition
open GatedPipeline.Text

/-! ## What a condition may read -/

structure Scope where
  trigger : Trigger
  /-- The coordinates of the stage. -/
  matrix : List (String × String) := []
  /-- The published outputs by stage and key. Without them no output can be read. -/
  outputs : Option (String → String → Option Value) := none
  /-- The facts of the release decision, or why there is none. Without it no decision can
  be asked for. -/
  release : Option (Except String (List (String × String))) := none

/-! ## Answers -/

/-- What evaluating gives, and whether the release decision was asked for on the way. -/
structure Answer (α : Type) where
  result : Except EvalFault α
  askedRelease : Bool := false

namespace Answer

def pure {α : Type} (a : α) : Answer α := { result := .ok a }

def fail {α : Type} (e : EvalFault) : Answer α := { result := .error e }

/-- An answer that only computes. -/
def of {α : Type} (r : Except EvalFault α) : Answer α := { result := r }

/-- First one answer, then the next; a fault ends it. -/
def bind {α β : Type} (a : Answer α) (f : α → Answer β) : Answer β :=
  match a.result with
  | .error e => { result := .error e, askedRelease := a.askedRelease }
  | .ok x => { result := (f x).result, askedRelease := a.askedRelease || (f x).askedRelease }

instance : Monad Answer where
  pure := Answer.pure
  bind := Answer.bind

end Answer

/-! ## References -/

/-- The value of a reference, apart from the release decision. -/
def Scope.lookup (s : Scope) (r : Reference) : Except String Value :=
  let name := quoted r.name
  match r.root, r.path with
  | .event, [] => .ok (.text s.trigger.event.name)
  | .ref, [] => .ok (.text s.trigger.ref)
  | .branch, [] => .ok (.text s.trigger.branch)
  | .fork, [] => .ok (.bool s.trigger.fork)
  | .actor, [] => .ok (.text s.trigger.actor)
  | .workflow, [] => .ok (.text s.trigger.workflow)
  | _, [] => .error (name ++ " needs a key")
  | .vars, key =>
    let key := ".".intercalate key
    match s.trigger.values.lookup key with
    | some v => .ok (.text v)
    | none => .error s!"vars.{key} is not set"
  | .matrix, key =>
    let key := ".".intercalate key
    match s.matrix.lookup key with
    | some v => .ok (.text v)
    | none => .error s!"matrix.{key} is not a coordinate of this stage"
  | .outputs, stage :: key =>
    match s.outputs, key with
    | some find, _ :: _ =>
      match find stage (".".intercalate key) with
      | some v => .ok v
      | none => .error (name ++ " has not been produced")
    | _, _ => .error (name ++ " is not available")
  | .release, key =>
    match s.release with
    | none => .error "no release decision available"
    | some (.error why) => .error why
    | some (.ok facts) =>
      match facts.lookup (".".intercalate key) with
      | some v => .ok (.text v)
      | none => .error (name ++ " is not available")
  | _, _ => .error ("Cannot resolve " ++ name)

/-- Whether resolving the reference asks for the release decision. -/
def Scope.asksRelease (s : Scope) (r : Reference) : Bool :=
  r.root = .release && !r.path.isEmpty && s.release.isSome

/-- The value of a reference. -/
def Scope.resolve (s : Scope) (r : Reference) : Answer Value :=
  { result := (s.lookup r).mapError .unresolved, askedRelease := s.asksRelease r }

/-! ## Functions -/

/-- Whether one of the values equals the item. They are compared until one does. -/
def containsValue (item : Value) : List Value → Except EvalFault Bool
  | [] => .ok false
  | v :: vs =>
    match equals v item with
    | .error e => .error e
    | .ok true => .ok true
    | .ok false => containsValue item vs

/-- What a function gives for its arguments. -/
def Function.apply (f : Function) (args : List Value) (s : Scope) : Except EvalFault Value :=
  match f, args with
  | .changed, args =>
    if s.trigger.changedFiles.isEmpty then
      .error (.unresolved "changed() needs changed_files on the trigger")
    else .ok (.bool (s.trigger.changedFiles.any fun file =>
      args.any fun pattern => globMatches (asText pattern) file))
  | .contains, [.list items, needle] => (containsValue needle items).map .bool
  | .contains, [text, part] =>
    .ok (.bool (occursIn (asText part).toList (asText text).toList))
  | .startsWith, [text, part] =>
    .ok (.bool ((asText part).toList.isPrefixOf (asText text).toList))
  | .endsWith, [text, part] =>
    .ok (.bool ((asText part).toList.isSuffixOf (asText text).toList))
  | f, _ => .error (.unresolved (f.name ++ "() takes exactly 2 arguments"))

/-! ## Expressions -/

mutual

/-- The value of an expression. The right side of `&&` and `||` is evaluated only if the left
side does not settle it, and the right side of `in` before the left one. -/
def Expr.eval (s : Scope) : Expr → Answer Value
  | .lit v => .pure v
  | .ref r => s.resolve r
  | .list items => (evalAll s items).bind fun vs => .pure (.list vs)
  | .or l r => (l.eval s).bind fun a =>
    if a.truthy then .pure (.bool true)
    else (r.eval s).bind fun b => .pure (.bool b.truthy)
  | .and l r => (l.eval s).bind fun a =>
    if a.truthy then (r.eval s).bind fun b => .pure (.bool b.truthy)
    else .pure (.bool false)
  | .not e => (e.eval s).bind fun a => .pure (.bool !a.truthy)
  | .cmp op l r => (l.eval s).bind fun a => (r.eval s).bind fun b =>
    .of ((op.holds a b).map .bool)
  | .mem item container => (container.eval s).bind fun c =>
    match c with
    | .list items => (item.eval s).bind fun v => .of ((containsValue v items).map .bool)
    | _ => .fail (.unresolved "right side of 'in' must be a list")
  | .call f args => (evalAll s args).bind fun vs => .of (f.apply vs s)

/-- The values of expressions, from the first to the last. -/
def evalAll (s : Scope) : List Expr → Answer (List Value)
  | [] => .pure []
  | e :: es => (e.eval s).bind fun v => (evalAll s es).bind fun vs => .pure (v :: vs)

end

/-! ## Conditions -/

/-- A fault that evaluating a condition does not turn into "false". -/
inductive Breakdown where
  | tooLarge
  | tooManyDigits (count : Nat)
  deriving DecidableEq, Repr

def Breakdown.message : Breakdown → String
  | .tooLarge => "int too large to convert to float"
  | .tooManyDigits count => (ParseFault.tooManyDigits count).message ""

/-- Whether a condition holds, or how evaluating it broke down; and whether the release decision
was asked for. -/
structure Verdict where
  holds : Except Breakdown Bool
  askedRelease : Bool := false

/-- The verdict of an evaluated expression: its truth, and "false" when something in it could
not be resolved. -/
def Verdict.ofAnswer (a : Answer Value) : Verdict :=
  { holds := match a.result with
      | .ok v => .ok v.truthy
      | .error (.unresolved _) => .ok false
      | .error .tooLarge => .error .tooLarge
    askedRelease := a.askedRelease }

/-- Whether a condition holds. An absent or blank one holds, one that is not well formed does
not. -/
def evaluate (expression : Option String) (s : Scope) : Verdict :=
  match expression with
  | none => { holds := .ok true }
  | some text =>
    if isBlankText text then { holds := .ok true }
    else match parse text with
      | .ok e => .ofAnswer (e.eval s)
      | .error (.tooManyDigits n) => { holds := .error (.tooManyDigits n) }
      | .error _ => { holds := .ok false }

end GatedPipeline.Condition
