-- Matrices: named dimensions that are multiplied into combinations, some of
-- which are excluded, and rows that are added.
import GatedPipeline.Value
namespace GatedPipeline

/-- The dimensions of one combination with their values, in order. -/
abbrev Coordinates := List (String × String)

/-- A matrix as it is declared. Keys are distinct within the dimensions and within each row. -/
structure MatrixSpec where
  dimensions : List (String × List Value) := []
  /-- Rows that are added after the product of the dimensions. -/
  includes : List (List (String × Value)) := []
  /-- Every combination that one of these matches is dropped from the product. -/
  excludes : List (List (String × Value)) := []

namespace MatrixSpec

/-- A matrix with neither dimensions nor added rows is as good as none. -/
def nonempty (m : MatrixSpec) : Bool := !m.dimensions.isEmpty || !m.includes.isEmpty

/-- Every choice of one value for each dimension. The first dimension changes last. -/
def product : List (String × List Value) → List Coordinates
  | [] => [[]]
  | (d, vs) :: ds => vs.flatMap fun v => (product ds).map fun c => (d, v.shown) :: c

/-- Whether the combination has each value of the pattern. -/
def matchesRow (c : Coordinates) (pattern : List (String × Value)) : Bool :=
  pattern.all fun (d, v) => c.lookup d == some v.shown

/-- The combinations of the dimensions that are not excluded. -/
def kept (m : MatrixSpec) : List Coordinates :=
  if m.dimensions.isEmpty then []
  else (product m.dimensions).filter fun c => !m.excludes.any (matchesRow c)

/-- An added row as a combination. -/
def rowCoordinates (row : List (String × Value)) : Coordinates := row.map fun (d, v) => (d, v.shown)

/-- Adds a combination at the end unless it is there. -/
def addRow (cs : List Coordinates) (row : List (String × Value)) : List Coordinates :=
  if rowCoordinates row ∈ cs then cs else cs ++ [rowCoordinates row]

/-- Why a matrix has no combinations. -/
inductive Fault where
  | emptyDimension (dimension : String)
  | noCombinations
  deriving DecidableEq, Repr

def Fault.message : Fault → String
  | .emptyDimension d => s!"Matrix dimension '{d}' has no values"
  | .noCombinations => "Matrix expands to zero combinations"

/-- The combinations of a matrix: the product without what is excluded, then the added rows. -/
def combinations (m : MatrixSpec) : Except Fault (List Coordinates) :=
  match m.dimensions.find? (·.2.isEmpty) with
  | some (d, _) => .error (.emptyDimension d)
  | none =>
    let all := m.includes.foldl addRow m.kept
    if all.isEmpty then .error .noCombinations else .ok all

end MatrixSpec

end GatedPipeline
