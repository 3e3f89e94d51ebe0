-- The outputs of a run: values by producer and key, each written once. What a
-- stage writes is staged, and published only when the stage has succeeded;
-- what the run itself writes is published at once.
import GatedPipeline.Graph.Basic
namespace GatedPipeline

/-- The outputs of one run. -/
structure OutputStore where
  /-- Values that are written but not published, by producer. -/
  staged : List (String × List (String × Value)) := []
  /-- Values that readers see, by producer. -/
  published : List (String × List (String × Value)) := []
  /-- Each producer and key that has been written. -/
  written : List (String × String) := []
  /-- The producers that have ended. -/
  ended : List String := []
  /-- Whether the run is over, so that nothing more will be written. -/
  closed : Bool := false
  deriving Inhabited

/-- Why a value cannot be written or read. -/
inductive OutputFault where
  | duplicate (producer key : String)
  | alreadyEnded (producer key : String)
  /-- The producer has ended without the key. -/
  | missing (producer key : String)
  /-- The producer has not ended, and the reader does not wait. -/
  | timedOut (consumer : Option String) (producer key : String)
  /-- Nothing is published under the key. -/
  | unpublished (key : String)
  deriving DecidableEq, Repr

def OutputFault.message : OutputFault → String
  | .duplicate producer key => s!"[{producer}] output '{key}' was already written"
  | .alreadyEnded producer key => s!"[{producer}] cannot write '{key}' after it terminated"
  | .missing producer key => s!"[{producer}] terminated without writing output '{key}'"
  | .timedOut none producer key => s!"Timed out waiting on {producer}.{key}"
  | .timedOut (some consumer) producer key =>
    (if consumer = "" then "Timed out waiting" else s!"Timed out waiting for {consumer}") ++
      s!" on {producer}.{key}"
  | .unpublished key => key

namespace OutputStore

/-! ## Reading -/

/-- The staged values of a producer. -/
def stagedOf (s : OutputStore) (producer : String) : List (String × Value) :=
  (getPair? producer s.staged).getD []

/-- The published values of a producer. -/
def publishedOf (s : OutputStore) (producer : String) : List (String × Value) :=
  (getPair? producer s.published).getD []

/-- The published value, if there is one. -/
def peek? (s : OutputStore) (producer key : String) : Option Value :=
  getPair? key (s.publishedOf producer)

/-- The published value, for a reader that does not wait for it. -/
def read (s : OutputStore) (producer key : String) (consumer : Option String) :
    Except OutputFault Value :=
  match s.peek? producer key with
  | some v => .ok v
  | none =>
    if s.ended.contains producer || s.closed then .error (.missing producer key)
    else .error (.timedOut consumer producer key)

/-! ## Writing -/

/-- Adds values to those of a producer. -/
def addValues (producer : String) (values : List (String × Value))
    (m : List (String × List (String × Value))) : List (String × List (String × Value)) :=
  let own := (getPair? producer m).getD []
  putPair producer (values.foldl (fun own (k, v) => putPair k v own) own) m

def markEnded (s : OutputStore) (producer : String) : OutputStore :=
  { s with ended := if s.ended.contains producer then s.ended else s.ended ++ [producer] }

/-- Writes a value, as text. A key is written once, and not after its producer has ended; the
run itself never ends. -/
def write (s : OutputStore) (producer key : String) (v : Value) : Except OutputFault OutputStore :=
  if s.written.contains (producer, key) then .error (.duplicate producer key)
  else if s.ended.contains producer && producer != runScope then
    .error (.alreadyEnded producer key)
  else
    let s := { s with written := s.written ++ [(producer, key)] }
    let entry := [(key, Value.text v.shown)]
    if producer = runScope then .ok { s with published := addValues producer entry s.published }
    else .ok { s with staged := addValues producer entry s.staged }

/-- Publishes what a producer has staged: it has succeeded. -/
def commit (s : OutputStore) (producer : String) : OutputStore :=
  markEnded { s with
    published := addValues producer (s.stagedOf producer) s.published
    staged := dropPair producer s.staged } producer

/-- Drops what a producer has staged: it has ended without success. -/
def discard (s : OutputStore) (producer : String) : OutputStore :=
  markEnded { s with staged := dropPair producer s.staged } producer

/-- Puts back the values of a producer that were recorded earlier. -/
def restore (s : OutputStore) (producer : String) (values : List (String × Value)) : OutputStore :=
  let s := { s with
    written := s.written ++ values.map fun (k, _) => (producer, k)
    published := addValues producer values s.published }
  if producer = runScope then s else s.markEnded producer

/-- Says that the run is over. -/
def close (s : OutputStore) : OutputStore := { s with closed := true }

end OutputStore

end GatedPipeline
