-- Facts about the checkout, asked of git.
import GatedPipeline.Text.Blank
import GatedPipeline.Text.Lines
import GatedPipeline.Text.Quoted
namespace GatedPipeline
open GatedPipeline.Text

/-! ## Asking -/

/-- Why git has no answer. -/
inductive GitFault where
  | notInstalled
  /-- The command has failed. -/
  | failed (command : List String)
  deriving DecidableEq, Repr

def GitFault.message : GitFault → String
  | .notInstalled => "[Errno 2] No such file or directory: 'git'"
  | .failed command => "Command '" ++ quotedList command ++ "' returned non-zero exit status 128."

/-- A command, and the directory it is run in unless that is the current one. -/
structure GitCall where
  command : List String
  dir : Option String := none
  deriving DecidableEq, Repr

/-- What git prints for each list of arguments that it can answer; nothing when there is no
git. -/
structure GitAnswers where
  answers : Option (List (String × String)) := some []
  deriving Inhabited

def GitAnswers.ask (g : GitAnswers) (args : List String) : Except GitFault String :=
  match g.answers with
  | none => .error .notInstalled
  | some answers =>
    match answers.lookup (" ".intercalate args) with
    | some text => .ok (trim text)
    | none => .error (.failed ("git" :: args))

/-- What came of a question, and the commands it took. -/
structure GitReply (α : Type) where
  result : Except GitFault α
  calls : List GitCall

/-! ## Questions -/

namespace GitAnswers

/-- Runs one command. -/
def run (g : GitAnswers) (args : List String) (dir : Option String := none) : GitReply String :=
  { result := g.ask args, calls := [{ command := "git" :: args, dir }] }

/-- The commit that is checked out. -/
def headCommit (g : GitAnswers) (dir : Option String := none) : GitReply String :=
  g.run ["rev-parse", "HEAD"] dir

/-- The last common commit with another ref. -/
def mergeBase (g : GitAnswers) (ref : String := "origin/main") (dir : Option String := none) :
    GitReply String :=
  g.run ["merge-base", "HEAD", ref] dir

/-- The files that differ between two commits. -/
def changedFiles (g : GitAnswers) (base : String) (head : String := "HEAD")
    (dir : Option String := none) : GitReply (List String) :=
  let reply := g.run ["diff", "--name-only", base ++ ".." ++ head] dir
  { result := reply.result.map textLines, calls := reply.calls }

/-- The ref that is checked out, or the commit when no branch is. -/
def currentRef (g : GitAnswers) (dir : Option String := none) : GitReply String :=
  let reply := g.run ["symbolic-ref", "-q", "HEAD"] dir
  match reply.result with
  | .error (.failed _) =>
    let other := g.headCommit dir
    { result := other.result, calls := reply.calls ++ other.calls }
  | _ => reply

/-- The address of a remote. -/
def remoteUrl (g : GitAnswers) (remote : String := "origin") (dir : Option String := none) :
    GitReply String :=
  g.run ["remote", "get-url", remote] dir

end GitAnswers

end GatedPipeline
