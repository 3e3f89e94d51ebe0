-- Options on a command line. An option has a spelling that begins with two
-- dashes; its value is the next argument, or stands after an equals sign.
import GatedPipeline.Text.Find
namespace GatedPipeline.Cli
open GatedPipeline.Text

/-! ## Declared options -/

/-- What an option wants: a text, or nothing, since it says yes or no itself. -/
inductive OptionForm where
  | text
  | flag (on : Bool)

/-- An option. Two spellings with one key set the same thing. -/
structure OptionSpec where
  spelling : String
  key : String
  form : OptionForm

/-- What an option was set to. -/
inductive OptionValue where
  | text (s : String)
  | flag (on : Bool)

/-! ## Arguments -/

/-- The arguments of a command: what its options were set to, in order, and the other arguments. -/
structure Arguments where
  options : List (String × OptionValue) := []
  others : List String := []

namespace Arguments

/-- The value that an option was set to last. -/
def last? (a : Arguments) (key : String) : Option OptionValue := a.options.reverse.lookup key

def text? (a : Arguments) (key : String) : Option String :=
  match a.last? key with
  | some (.text s) => some s
  | _ => none

def flag? (a : Arguments) (key : String) : Option Bool :=
  match a.last? key with
  | some (.flag on) => some on
  | _ => none

/-- The value of an option, if it was set, as it is read from its text. None when the text is not
of the right form. -/
def read? {α : Type} (a : Arguments) (key : String) (read : String → Option α) :
    Option (Option α) :=
  match a.text? key with
  | some s => (read s).map some
  | none => some none

/-- Every text that an option was set to. -/
def texts (a : Arguments) (key : String) : List String :=
  a.options.filterMap fun (k, v) =>
    match v with
    | .text s => if k = key then some s else none
    | .flag _ => none

def set (a : Arguments) (key : String) (v : OptionValue) : Arguments :=
  { a with options := (key, v) :: a.options }

def push (a : Arguments) (other : String) : Arguments := { a with others := other :: a.others }

end Arguments

/-! ## Reading -/

/-- Whether an argument is an option. A single dash is not. -/
def isOption (arg : String) : Bool :=
  match arg.toList with
  | '-' :: _ :: _ => true
  | _ => false

/-- The spelling of an option, and the value that stands after its equals sign. -/
def cutOption (arg : String) : String × Option String :=
  match cut? '=' arg.toList with
  | some (a, b) => (String.ofList a, some (String.ofList b))
  | none => (arg, none)

/-- What an option is set to, with the value after its equals sign or the next argument, and the
arguments that are left. None when a value is missing, or there is one too many. -/
def takeValue (form : OptionForm) (given : Option String) (args : List String) :
    Option (OptionValue × { rest : List String // rest.length ≤ args.length }) :=
  match form, given, args with
  | .flag on, none, args => some (.flag on, ⟨args, by simp⟩)
  | .flag _, some _, _ => none
  | .text, some s, args => some (.text s, ⟨args, by simp⟩)
  | .text, none, s :: rest => some (.text s, ⟨rest, by simp⟩)
  | .text, none, [] => none

/-- Reads the arguments of a command. Two dashes alone end the options. None when an option is
unknown, or does not get what it wants. -/
def readArguments (specs : List OptionSpec) : List String → Option Arguments
  | [] => some {}
  | arg :: args =>
    if arg = "--" then some { others := args }
    else if !isOption arg then (readArguments specs args).map (·.push arg)
    else
      match specs.find? (·.spelling = (cutOption arg).1) with
      | none => none
      | some spec =>
        match takeValue spec.form (cutOption arg).2 args with
        | none => none
        | some (v, ⟨rest, _⟩) => (readArguments specs rest).map (·.set spec.key v)
termination_by args => args.length
decreasing_by all_goals simp_all; try omega

/-- Reads the flags in front of the name of a command. Gives those that are set, the name, and
what follows it. -/
def readLeading (flags : List String) : List String → Option (List String × String × List String)
  | [] => none
  | arg :: args =>
    if arg = "--" then
      match args with
      | name :: rest => some ([], name, rest)
      | [] => none
    else if !isOption arg then some ([], arg, args)
    else if flags.contains arg then
      (readLeading flags args).map fun (set, rest) => (arg :: set, rest)
    else none

end GatedPipeline.Cli
