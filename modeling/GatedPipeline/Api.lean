-- The approval service: requests about gates, and the replies to them. What carries
-- them over a network is not part of it.
import GatedPipeline.Calendar
import GatedPipeline.Json.Basic
import GatedPipeline.Gate.Table
namespace GatedPipeline.Api

/-! ## Requests and replies -/

/-- A request. Of two entries of the query with one key the later one counts. -/
structure Request where
  method : String
  path : String
  query : List (String × String) := []
  body : Option Json := none

structure Reply where
  status : Nat
  body : Json

/-- A reply that says what is wrong. -/
def Reply.refusal (status : Nat) (detail : String) : Reply :=
  ⟨status, .object [("detail", .text detail)]⟩

def Reply.notFound : Reply := refusal 404 "Not Found"

def Reply.wrongMethod : Reply := refusal 405 "Method Not Allowed"

/-- The reply to a request that should go to another path. -/
def Reply.elsewhere : Reply := ⟨307, .null⟩

/-- The reply to a request whose body is not of the right form. It does not say why. -/
def Reply.malformed : Reply := ⟨422, .null⟩

/-! ## Routes -/

/-- What a path leads to. -/
inductive Resource where
  /-- A page about the service itself. What it says does not count here. -/
  | page
  | health
  | gates
  | gate (id : String)
  /-- The decision on a gate. As a gate, it goes by the longer name. -/
  | decision (id longer : String)
  deriving DecidableEq, Repr

/-- The text between a beginning and an end. -/
def between? (first last : String) (s : String) : Option String :=
  let cs := s.toList
  if first.toList.isPrefixOf cs then
    let rest := cs.drop first.length
    if last.toList.isSuffixOf rest then some (String.ofList (rest.take (rest.length - last.length)))
    else none
  else none

/-- The paths of the pages about the service. -/
def pages : List String := ["/openapi.json", "/docs", "/docs/oauth2-redirect", "/redoc"]

/-- The path without a line break at its end. -/
def dropBreak (path : String) : String :=
  match path.toList.reverse with
  | '\n' :: cs => String.ofList cs.reverse
  | _ => path

/-- What a path leads to. The identity of a gate may have slashes in it, but no line breaks; one
at the end of the path does not count. -/
def resource? (path : String) : Option Resource :=
  let path := dropBreak path
  if pages.contains path then some .page
  else if path = "/health" then some .health
  else if path = "/gates" then some .gates
  else if path.toList.contains '\n' then none
  else match between? "/gates/" "" path, between? "/gates/" "/decision" path with
    | some longer, some id => some (.decision id longer)
    | some id, none => some (.gate id)
    | none, _ => none

/-- The path that may have been meant: without the slashes at its end, or with one. -/
def otherPath (path : String) : String :=
  match path.toList.reverse with
  | '/' :: cs => String.ofList (cs.dropWhile (· = '/')).reverse
  | _ => path ++ "/"

/-- The reply to a path that leads nowhere. -/
def lost (path : String) : Reply :=
  if path ≠ "/" && (resource? (otherPath path)).isSome then .elsewhere else .notFound

/-! ## Gates -/

/-- What is told of a gate. Its moments have to be in the calendar. -/
def gateBody (g : Gate) : Except MomentFault Json := do
  let requested ← momentText g.requestedAt
  let decided ← g.decidedAt.mapM momentText
  return .object [("id", .text g.id), ("name", .text g.name), ("run_id", .text g.runId),
    ("status", .text g.status.name), ("actor", .optText g.actor), ("comment", .text g.comment),
    ("requested_at", .text requested), ("decided_at", .optText decided)]

variable {ι : Type}

/-- The gates that a query asks for: those with a status, or of a run. -/
def listGates (t : GateTable ι) (query : List (String × String)) : Except MomentFault Reply :=
  let ofRun (g : Gate) : Bool := (getPair? "run_id" query).all (· == g.runId)
  let reply (gs : List Gate) : Except MomentFault Reply :=
    (gs.mapM gateBody).map fun bodies => ⟨200, .list bodies⟩
  match getPair? "status" query with
  | none => reply (t.all.filter ofRun)
  | some name =>
    match GateStatus.ofName? name with
    | none => .ok (.refusal 400 s!"Unknown gate status: {name}")
    | some status => reply (t.all.filter fun g => g.status = status && ofRun g)

def showGate (t : GateTable ι) (id : String) : Except MomentFault Reply :=
  match t.get? id with
  | some g => (gateBody g).map fun body => ⟨200, body⟩
  | none => .ok (.refusal 404 (GateFault.message (.unknown id)))

/-! ## Decisions -/

/-- What a decision has to say. -/
structure DecisionForm where
  decision : String
  actor : String
  comment : String := ""

/-- The decision in a body. The comment may be left out; other fields do not count. -/
def DecisionForm.ofBody? (body : Json) : Option DecisionForm :=
  match body.member? "decision", body.member? "actor", body.member? "comment" with
  | some (.text decision), some (.text actor), none => some { decision, actor }
  | some (.text decision), some (.text actor), some (.text comment) =>
    some { decision, actor, comment }
  | _, _, _ => none

/-- Decides a gate. A form that is not right is refused before anything else. -/
def decideGate (t : GateTable ι) (id : String) (body : Option Json) (now : Time) :
    GateChange ι Reply :=
  let refused (r : Reply) : GateChange ι Reply := { table := t, answer := r }
  match body.bind DecisionForm.ofBody? with
  | none => refused .malformed
  | some form =>
    if (t.get? id).isNone then refused (.refusal 404 (GateFault.message (.unknown id)))
    else match t.decide id (.words form.decision) form.actor form.comment now with
      | .error fault => refused (.refusal 400 fault.message)
      | .ok change => {
          table := change.table
          answer := ⟨200, .object [("id", .text id), ("status", .text change.answer.name)]⟩
          notices := change.notices }

/-! ## The service -/

/-- Answers a request. No answer can be given when it would tell of a moment that is not in the
calendar. -/
def handle (t : GateTable ι) (r : Request) (now : Time) :
    Except MomentFault (GateChange ι Reply) :=
  let query := ofPairs r.query
  let plain (reply : Reply) : GateChange ι Reply := { table := t, answer := reply }
  match resource? r.path, r.method with
  | none, _ => .ok (plain (lost r.path))
  | some .page, "GET" | some .page, "HEAD" => .ok (plain ⟨200, .null⟩)
  | some .health, "GET" => .ok (plain ⟨200, .object [("ok", .bool true)]⟩)
  | some .gates, "GET" => (listGates t query).map plain
  | some (.gate id), "GET" => (showGate t id).map plain
  | some (.decision _ longer), "GET" => (showGate t longer).map plain
  | some (.decision id _), "POST" => .ok (decideGate t id r.body now)
  | some _, _ => .ok (plain .wrongMethod)

end GatedPipeline.Api
