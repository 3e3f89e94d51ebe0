-- Declaring stages and matrices: a stage in one go, or part by part.
import GatedPipeline.Pairs
import GatedPipeline.Stage.Basic
namespace GatedPipeline

/-! ## Matrices -/

/-- A value as the text that stands for it. -/
def asText (v : Value) : Value := .text v.shown

namespace MatrixSpec

/-- A matrix of texts. A dimension among the later ones takes the place of one with its name. -/
def ofDimensions (dimensions later : List (String × List Value))
    (includes excludes : List (List (String × Value))) : MatrixSpec :=
  let row (r : List (String × Value)) := r.map fun (d, v) => (d, asText v)
  { dimensions := (ofPairs (dimensions ++ later)).map fun (d, vs) => (d, vs.map asText)
    includes := includes.map row
    excludes := excludes.map row }

end MatrixSpec

/-! ## Stages -/

/-- The step, in a directory unless it has its own. -/
def Step.within (cwd : Option String) (s : Step) : Step := { s with cwd := s.cwd <|> cwd }

/-- Variables with texts as values. -/
def shownPairs (ps : List (String × Value)) : List (String × String) :=
  ps.map fun (k, v) => (k, v.shown)

namespace StageTemplate

/-- The stage with all its steps in a directory, those apart that have their own. -/
def within (cwd : Option String) (t : StageTemplate) : StageTemplate :=
  { t with steps := t.steps.map (Step.within cwd) }

/-! ## Parts -/

def dependsOn (names : List String) (t : StageTemplate) : StageTemplate :=
  { t with needs := t.needs ++ names }

def defineStep (s : Step) (t : StageTemplate) : StageTemplate := { t with steps := t.steps ++ [s] }

def consumes (references : List String) (t : StageTemplate) : StageTemplate :=
  { t with inputs := t.inputs ++ references }

def produces (keys : List String) (t : StageTemplate) : StageTemplate :=
  { t with outputs := t.outputs ++ keys }

/-- The last condition counts. -/
def when (expression : String) (t : StageTemplate) : StageTemplate :=
  { t with condition := some expression }

/-- The last matrix counts, and whether it fails fast. -/
def overMatrix (m : MatrixSpec) (failFast : Bool) (t : StageTemplate) : StageTemplate :=
  { t with matrix := some m, failFast }

def gatedBy (environment : String) (t : StageTemplate) : StageTemplate :=
  { t with environment := some environment }

def asRelease (t : StageTemplate) : StageTemplate := { t with release := true }

/-- A variable that comes again takes the new value. -/
def withEnv (vars : List (String × Value)) (t : StageTemplate) : StageTemplate :=
  { t with env := ofPairs (t.env ++ shownPairs vars) }

end StageTemplate

end GatedPipeline
