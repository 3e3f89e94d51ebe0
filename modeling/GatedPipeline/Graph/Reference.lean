-- References to outputs in the inputs of a stage: a key, which may have the
-- name of a stage before it, and that some coordinates in brackets.
import GatedPipeline.Text.Blank
import GatedPipeline.Text.Find
namespace GatedPipeline
open GatedPipeline.Text

/-- A reference to an output: `key`, `stage.key` or `stage[dim=value,...].key`. -/
structure OutputRef where
  /-- The reference as it was written. -/
  raw : String
  stage : Option String := none
  qualifiers : List (String × String) := []
  key : String
  deriving DecidableEq, Repr

namespace OutputRef

/-- What the names of a reference are made of. -/
def isWordChar (c : Char) : Bool := c.isAlphanum || c = '_' || c = '-'

/-- The key that takes up all the characters. -/
def key? (cs : List Char) : Option String :=
  if !cs.isEmpty && cs.all isWordChar then some (String.ofList cs) else none

/-- One coordinate: what stands on the two sides of the first `=`, without blanks around. -/
def qualifier? (cs : List Char) : Option (String × String) :=
  (cut? '=' cs).map fun (d, v) => (trim (String.ofList d), trim (String.ofList v))

/-- The coordinates between the brackets. Nothing between them is no coordinates. -/
def qualifiers? (cs : List Char) : Option (List (String × String)) :=
  if cs.isEmpty then some [] else (pieces ',' cs).mapM qualifier?

/-- The reference that a text writes. Blanks around it do not count. -/
def parse? (raw : String) : Option OutputRef :=
  let cs := dropLastBlanks (dropBlanks raw.toList)
  let word := cs.takeWhile isWordChar
  match cs.dropWhile isWordChar with
  | [] => (key? word).map fun key => { raw, key }
  | '.' :: r =>
    if word.isEmpty then none
    else (key? r).map fun key => { raw, stage := some (String.ofList word), key }
  | '[' :: r =>
    if word.isEmpty then none
    else match r.dropWhile (· ≠ ']') with
      | ']' :: '.' :: k =>
        match key? k, qualifiers? (r.takeWhile (· ≠ ']')) with
        | some key, some qualifiers =>
          some { raw, stage := some (String.ofList word), qualifiers, key }
        | _, _ => none
      | _ => none
  | _ => none

end OutputRef

end GatedPipeline
