-- Settings from the environment, each with a default.
import GatedPipeline.Text.Blank
import GatedPipeline.Text.Quoted
import GatedPipeline.Decimal.Reading
namespace GatedPipeline
open GatedPipeline.Text GatedPipeline.Decimal

/-! ## Numbers -/

/-- Why the text of a setting is no number. -/
inductive SettingFault where
  | notWhole (text : String)
  | notNumber (text : String)
  | tooManyDigits (count : Nat)
  deriving DecidableEq, Repr

/-- How many characters of a quoted text are shown when it is no whole number. -/
def shownLength : Nat := 200

def SettingFault.message : SettingFault → String
  | .notWhole text =>
    "invalid literal for int() with base 10: " ++
      String.ofList ((quoted text).toList.take shownLength)
  | .notNumber text => "could not convert string to float: " ++ quoted text
  | .tooManyDigits count => tooManyDigitsMessage count

def wholeSetting (text : String) : Except SettingFault Int :=
  match readWhole text with
  | .ok n => .ok n
  | .error .malformed => .error (.notWhole text)
  | .error (.tooManyDigits count) => .error (.tooManyDigits count)

/-- A whole number, or nothing when the text is absent or blank. -/
def wholeSetting? : Option String → Except SettingFault (Option Int)
  | none => .ok none
  | some text => if isBlankText text then .ok none else (wholeSetting text).map some

/-- A number, or nothing when the text is absent or blank. -/
def numberSetting? : Option String → Except SettingFault (Option Binary64)
  | none => .ok none
  | some text =>
    if isBlankText text then .ok none
    else match readNumber? text with
      | some x => .ok (some x)
      | none => .error (.notNumber text)

/-! ## All settings -/

structure Settings where
  databaseUrl : String := "sqlite:///.relayci/runs.db"
  /-- How many bodies a run may have in flight. -/
  maxParallel : Option Int := none
  /-- How many bodies all runs together may have in flight. -/
  globalConcurrency : Int := 8
  /-- How many seconds a gate may be pending. -/
  gateTimeout : Option Binary64 := none
  logLevel : String := "WARNING"
  deriving Inhabited

/-- The settings under an environment. -/
def Settings.ofEnvironment (env : String → Option String) : Except SettingFault Settings := do
  let plain : Settings := {}
  let maxParallel ← wholeSetting? (env "RELAYCI_MAX_PARALLEL")
  let globalConcurrency ← match env "RELAYCI_GLOBAL_CONCURRENCY" with
    | some text => wholeSetting text
    | none => .ok plain.globalConcurrency
  let gateTimeout ← numberSetting? (env "RELAYCI_GATE_TIMEOUT")
  return {
    databaseUrl := (env "RELAYCI_DATABASE_URL").getD plain.databaseUrl
    maxParallel, globalConcurrency, gateTimeout
    logLevel := (env "RELAYCI_LOG_LEVEL").getD plain.logLevel }

end GatedPipeline
