-- Recorded triggers. A record has named fields, some of which may be absent, and
-- only the event is checked: what else stands in a field is taken over.
import GatedPipeline.Trigger
import GatedPipeline.Value
namespace GatedPipeline

/-! ## Faults -/

/-- What is wrong with a recorded trigger. -/
inductive TriggerFault where
  | missing (field : String)
  | unknownEvent (event : Value)
  /-- A value of this kind has no items. -/
  | noItems (kind : String)
  /-- An item that should be a pair has no items. -/
  | noPair (index : Nat)
  | wrongLength (index length : Nat)
  /-- A value of this kind cannot be a key. -/
  | noKey (kind : String)
  /-- A ref of this kind has no branch. -/
  | noBranch (kind : String)

def TriggerFault.message : TriggerFault → String
  | .missing field => field
  | .unknownEvent event => event.inList ++ " is not a valid EventKind"
  | .noItems kind => s!"'{kind}' object is not iterable"
  | .noPair index => s!"cannot convert dictionary update sequence element #{index} to a sequence"
  | .wrongLength index length =>
    s!"dictionary update sequence element #{index} has length {length}; 2 is required"
  | .noKey kind => s!"unhashable type: '{kind}'"
  | .noBranch kind => s!"'{kind}' object has no attribute 'startswith'"

/-! ## Fields -/

/-- A trigger as it is recorded. -/
structure TriggerRecord where
  event : EventKind
  ref : Value
  fork : Bool := false
  actor : Value := .text ""
  values : List (String × Value) := []
  changedFiles : List Value := []
  workflow : Value := .text ""

namespace TriggerRecord

/-- The event with this value as its name. -/
def eventOf (v : Value) : Except TriggerFault EventKind :=
  match v with
  | .text s =>
    match EventKind.ofName? s with
    | some e => .ok e
    | none => .error (.unknownEvent v)
  | _ => .error (.unknownEvent v)

/-- The items of a field. -/
def itemsOf (v : Value) : Except TriggerFault (List Value) :=
  match v.items? with
  | some items => .ok items
  | none => .error (.noItems v.kindName)

/-- A value as a key of a map. -/
def keyOf (v : Value) : Except TriggerFault String :=
  match v with
  | .text s => .ok s
  | .bool b => .ok (if b then "true" else "false")
  | .null => .ok "null"
  | .whole _ | .number _ => .ok v.shown
  | .list _ | .mapping _ => .error (.noKey v.kindName)

/-- The pair that the item at `index` makes. -/
def pairOf (v : Value) (index : Nat) : Except TriggerFault (String × Value) := do
  match v.items? with
  | none => throw (.noPair index)
  | some [k, v] => return (← keyOf k, v)
  | some items => throw (.wrongLength index items.length)

/-- A field as a map: its members, or its items as pairs. Of two with one key the later one
counts. -/
def membersOf (v : Value) : Except TriggerFault (List (String × Value)) :=
  match v with
  | .mapping members => .ok members
  | v => do return ofPairs (← (← itemsOf v).zipIdx.mapM fun (item, n) => pairOf item n)

/-- The record with these fields. Event and ref have to be there. The files are looked at before
the values. -/
def ofFields (field? : String → Option Value) : Except TriggerFault TriggerRecord := do
  let some event := field? "event" | .error (.missing "event")
  let event ← eventOf event
  let some ref := field? "ref" | .error (.missing "ref")
  let changedFiles ← itemsOf ((field? "changed_files").getD (.list []))
  let values ← membersOf ((field? "values").getD (.mapping []))
  return {
    event, ref, changedFiles, values
    fork := ((field? "fork").map Value.truthy).getD false
    actor := (field? "actor").getD (.text "")
    workflow := (field? "workflow").getD (.text "") }

/-- The branch of a record: that of a trigger on its ref. -/
def branch (r : TriggerRecord) : Except TriggerFault String :=
  match r.ref with
  | .text ref => .ok { ref : Trigger }.branch
  | v => .error (.noBranch v.kindName)

end TriggerRecord

end GatedPipeline
