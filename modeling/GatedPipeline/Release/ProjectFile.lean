-- The version in a project file. It stands in one of three tables, or else on
-- a line of its own anywhere in the file.
import GatedPipeline.Toml.Reader
import GatedPipeline.Text.Blank
import GatedPipeline.Text.Lines
import GatedPipeline.Release.Basic
namespace GatedPipeline
open GatedPipeline.Text GatedPipeline.Decimal

/-! ## Tables -/

/-- The tables that may have the version, in the order in which they are looked at. -/
def versionTables : List (List String) := [["project"], ["package"], ["tool", "poetry"]]

/-- The value of `version` in the table at a path. -/
def versionIn (root : Toml) : List String → Option Toml
  | [] => root.get? "version"
  | k :: ks => (root.get? k).bind fun t => versionIn t ks

/-! ## Lines -/

/-- The version after `version =` at the start of the characters: what stands between the next
two quotes, unless that is nothing. -/
def versionHere? (cs : List Char) : Option String := do
  let rest ← dropName "version".toList cs
  let rest ← match dropBlanks rest with
    | '=' :: r => some (dropBlanks r)
    | _ => none
  match rest with
  | '"' :: r =>
    let (body, _) ← cut? '"' r
    if body.isEmpty then none else some (String.ofList body)
  | _ => none
where
  dropName (name cs : List Char) : Option (List Char) :=
    if name.isPrefixOf cs then some (cs.drop name.length) else none

/-- The version on the first line that begins with one. -/
def versionOnLine? (atStart : Bool) : List Char → Option String
  | [] => none
  | c :: cs =>
    (if atStart then versionHere? (c :: cs) else none) <|> versionOnLine? (c = '\n') cs

/-! ## The source -/

/-- The fault of a project file that is not written as it should be. -/
def SourceFault.ofToml (source : List Char) (f : Toml.Fault) : SourceFault :=
  match f with
  | .malformed .. => .badFile (f.messageIn source)
  | .tooManyDigits _ => .longNumber (f.messageIn source)

/-- The version in the text of a project file. -/
def versionOfProject (path text : String) : Except SourceFault String := do
  let source := Toml.sourceOf text
  let root ← (Toml.parse source).mapError (SourceFault.ofToml source)
  match versionTables.findSome? (versionIn (.table root)) with
  | some v => if v.isShowable then return v.shown else throw (.longNumber tooLongToShowMessage)
  | none =>
    match versionOnLine? true (unifyBreaks text.toList) with
    | some v => return v
    | none => throw (.noVersion s!"No version found in {path}")

/-- A source that reads the candidate from a project file, and puts a mark before it. -/
def VersionSource.ofProject (path : String) (text : Except PathFault String)
    (latest : Option String) (mark : String := "v") : VersionSource :=
  { candidate := fun _ =>
      match text with
      | .error fault => .error (.noFile path fault)
      | .ok text => (versionOfProject path text).map (mark ++ ·)
    latest := fun _ => .ok latest }

end GatedPipeline
