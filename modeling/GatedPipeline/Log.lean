-- Log lines and the level of the log.
import GatedPipeline.Calendar
import GatedPipeline.Log.Template
import GatedPipeline.Text.Upper
namespace GatedPipeline
open GatedPipeline.Text

/-! ## Levels -/

inductive LogLevel where
  | critical | error | warning | info | debug | notset
  deriving DecidableEq, Repr, Inhabited

namespace LogLevel

def name : LogLevel → String
  | .critical => "CRITICAL" | .error => "ERROR" | .warning => "WARNING" | .info => "INFO"
  | .debug => "DEBUG" | .notset => "NOTSET"

/-- The level with a name in upper case. Two levels have a second name. -/
def ofName? (s : String) : Option LogLevel :=
  if s = "FATAL" then some .critical
  else if s = "WARN" then some .warning
  else [LogLevel.critical, .error, .warning, .info, .debug, .notset].find? (·.name == s)

end LogLevel

/-! ## Setting up -/

/-- How the log is written. -/
structure Logging where
  level : LogLevel := .warning
  /-- Whether lines begin with the time and the name of the thread. -/
  verbose : Bool := false
  deriving DecidableEq, Inhabited

def unknownLevel (name : String) : String := "Unknown level: " ++ quoted name

/-- Sets the log up again. A verbose log has all messages and stays verbose; else the level
changes if one is given. -/
def Logging.setup (l : Logging) (verbose : Bool) (level : Option String) :
    Except String Logging :=
  if verbose then .ok { level := .debug, verbose := true }
  else match level.filter (· ≠ "") with
    | none => .ok l
    | some text =>
      match LogLevel.ofName? (upper text) with
      | some level => .ok { l with level }
      | none => .error (unknownLevel (upper text))

/-- The name under which all logs stand. -/
def logRoot : String := "relayci"

/-- The name of the log of a module. -/
def logName (module : String) : String := logRoot ++ "." ++ module

/-! ## Lines -/

/-- What is logged. -/
structure LogRecord where
  name : String
  message : String
  args : List Value := []
  time : Time

/-- The name of the module that a log belongs to. -/
def logTag (name : String) : String :=
  let root := (logRoot ++ ".").toList
  let cs := name.toList
  if root.isPrefixOf cs then String.ofList (cs.drop root.length) else name

/-- The line of a record. A message without arguments is taken as it is. -/
def LogRecord.line (r : LogRecord) (verbose : Bool) : Except FillFault String := do
  let message ←
    if r.args.isEmpty then .ok r.message
    else
      (fillTemplate r.message.length r.message.toList (.ofArgs r.args)).map String.ofList
  let line := "[" ++ logTag r.name ++ "] " ++ message
  let clock := { (dateAndTime r.time).2 with micros := 0 }
  return if verbose then clock.shown ++ " MainThread " ++ line else line

end GatedPipeline
