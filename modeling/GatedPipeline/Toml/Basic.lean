-- TOML values, and how a value is shown as a version.
import GatedPipeline.Calendar
import GatedPipeline.Decimal.Reading
import GatedPipeline.Pairs
import GatedPipeline.Value
namespace GatedPipeline
open GatedPipeline.Text GatedPipeline.Decimal

/-! ## Values -/

inductive Toml where
  | text (s : String)
  | bool (b : Bool)
  | whole (n : Int)
  | number (x : Binary64)
  | date (d : CalendarDate)
  | clock (c : ClockTime)
  | moment (d : CalendarDate) (c : ClockTime) (offset : Option Int)
  | list (items : List Toml)
  | table (entries : List (String × Toml))
  deriving Inhabited

namespace Toml

/-! ## Texts -/

/-- A date, a time or a moment inside a list or a table: the call that makes it. -/
def call (maker : String) (arguments : List String) : String :=
  "datetime." ++ maker ++ "(" ++ ", ".intercalate arguments ++ ")"

/-- The parts of a date as arguments. -/
def dateArguments (d : CalendarDate) : List String :=
  [d.year, d.month, d.day].map toString

/-- The parts of a time of day as arguments, without the zeros after the minute. -/
def clockArguments (c : ClockTime) : List String :=
  let rest :=
    if c.micros ≠ 0 then [c.second, c.micros] else if c.second ≠ 0 then [c.second] else []
  ([c.hour, c.minute] ++ rest).map toString

/-- A distance of some minutes from the zero meridian. A negative one is a day back, and as many
seconds forward as it then takes. -/
def offsetCall (minutes : Int) : String :=
  if minutes = 0 then "datetime.timezone.utc"
  else
    let seconds := s!"seconds={60 * (minutes % 1440)}"
    call "timezone" [call "timedelta" (if minutes < 0 then ["days=-1", seconds] else [seconds])]

mutual

/-- The value as it stands inside the text of a list or a table. -/
def inList : Toml → String
  | .text s => quoted s
  | .bool b => (Value.bool b).inList
  | .whole n => toString n
  | .number x => x.text
  | .date d => call "date" (dateArguments d)
  | .clock c => call "time" (clockArguments c)
  | .moment d c offset =>
    call "datetime" (dateArguments d ++ clockArguments c ++
      (offset.map fun minutes => "tzinfo=" ++ offsetCall minutes).toList)
  | .list items => bracketed (inListAll items)
  | .table entries => braced (entriesShown entries)

def inListAll : List Toml → List String
  | [] => []
  | v :: vs => v.inList :: inListAll vs

def entriesShown : List (String × Toml) → List String
  | [] => []
  | (k, v) :: es => (quoted k ++ ": " ++ v.inList) :: entriesShown es

end

/-- The value as it is shown on its own. -/
def shown : Toml → String
  | .text s => s
  | .date d => d.shown
  | .clock c => c.shown
  | .moment d c offset => d.shown ++ " " ++ c.shown ++ (offset.map offsetShown).getD ""
  | v => v.inList

mutual

/-- Whether every whole number in the value has so few digits that it can be shown. -/
def isShowable : Toml → Bool
  | .whole n => Decimal.isShowable n
  | .list items => areShowable items
  | .table entries => entriesShowable entries
  | .text _ | .bool _ | .number _ | .date _ | .clock _ | .moment .. => true

def areShowable : List Toml → Bool
  | [] => true
  | v :: vs => v.isShowable && areShowable vs

def entriesShowable : List (String × Toml) → Bool
  | [] => true
  | (_, v) :: es => v.isShowable && entriesShowable es

end

/-- The value under a key; nothing unless the value is a table. -/
def get? (v : Toml) (key : String) : Option Toml :=
  match v with
  | .table entries => getPair? key entries
  | _ => none

end Toml

end GatedPipeline
