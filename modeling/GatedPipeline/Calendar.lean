-- Dates of the calendar and times of the day.
import GatedPipeline.Time
namespace GatedPipeline

/-! ## Dates and times -/

structure CalendarDate where
  year : Nat
  month : Nat
  day : Nat
  deriving DecidableEq, Repr, Inhabited

structure ClockTime where
  hour : Nat
  minute : Nat
  second : Nat
  micros : Nat := 0
  deriving DecidableEq, Repr, Inhabited

/-- A number with zeros before it up to a width. -/
def padded (width n : Nat) : String :=
  let ds := Nat.toDigits 10 n
  String.ofList (List.replicate (width - ds.length) '0' ++ ds)

namespace CalendarDate

def isLeapYear (year : Nat) : Bool := year % 4 == 0 && (year % 100 != 0 || year % 400 == 0)

def daysIn (year month : Nat) : Nat :=
  if month = 2 then (if isLeapYear year then 29 else 28)
  else if month = 4 || month = 6 || month = 9 || month = 11 then 30
  else 31

/-- Whether the calendar has the date. -/
def valid (d : CalendarDate) : Bool :=
  1 ≤ d.year && 1 ≤ d.month && d.month ≤ 12 && 1 ≤ d.day && d.day ≤ daysIn d.year d.month

def shown (d : CalendarDate) : String :=
  padded 4 d.year ++ "-" ++ padded 2 d.month ++ "-" ++ padded 2 d.day

end CalendarDate

def ClockTime.shown (c : ClockTime) : String :=
  padded 2 c.hour ++ ":" ++ padded 2 c.minute ++ ":" ++ padded 2 c.second ++
    if c.micros = 0 then "" else "." ++ padded 6 c.micros

/-- A number of minutes from the zero meridian. -/
def offsetShown (minutes : Int) : String :=
  (if minutes < 0 then "-" else "+") ++ padded 2 (minutes.natAbs / 60) ++ ":" ++
    padded 2 (minutes.natAbs % 60)

/-! ## Moments -/

/-- The rational rounded to a whole number. Half goes to the even neighbour. -/
def roundHalfEven (t : Rat) : Int :=
  let q := t.num / t.den
  let twice := 2 * (t.num % t.den)
  if twice > t.den || (twice = t.den && q % 2 = 1) then q + 1 else q

/-- The year, the month and the day that are so many days after the first of January 1970. Years
are counted from March, in eras of 400 years; before the year 1 comes the year 0. -/
def yearMonthDay (days : Int) : Int × Nat × Nat :=
  let z := days + 719468
  let era := z / 146097
  let day := (z % 146097).toNat
  let year := (day - day / 1460 + day / 36524 - day / 146096) / 365
  let inYear := day - (365 * year + year / 4 - year / 100)
  let fromMarch := (5 * inYear + 2) / 153
  let month := if fromMarch < 10 then fromMarch + 3 else fromMarch - 9
  (era * 400 + year + (if month ≤ 2 then 1 else 0), month,
    inYear - (153 * fromMarch + 2) / 5 + 1)

/-- The date that is so many days after the first of January 1970. -/
def CalendarDate.ofDays (days : Int) : CalendarDate :=
  let (year, month, day) := yearMonthDay days
  { year := year.toNat, month, day }

/-- The time of day after so many microseconds. -/
def ClockTime.ofMicros (n : Nat) : ClockTime :=
  let seconds := n / 1000000
  { hour := seconds / 3600, minute := seconds / 60 % 60, second := seconds % 60
    micros := n % 1000000 }

/-- The date and the time of day of a moment, to the microsecond. -/
def dateAndTime (t : Time) : CalendarDate × ClockTime :=
  let micros := roundHalfEven (t * 1000000)
  (.ofDays (micros / 86400000000), .ofMicros (micros % 86400000000).toNat)

/-- Why a moment has no date. -/
inductive MomentFault where
  /-- Its seconds are more than a machine word of 64 bits counts. -/
  | tooFar
  /-- Its year is more than a machine word of 32 bits counts. -/
  | yearTooLarge
  /-- The calendar has the years from 1 to 9999. -/
  | noSuchYear (year : Int)
  deriving DecidableEq, Repr

def MomentFault.message : MomentFault → String
  | .tooFar => "timestamp out of range for platform time_t"
  | .yearTooLarge => "[Errno 75] Value too large for defined data type"
  | .noSuchYear year => s!"year {year} is out of range"

/-- Whether a number fits in a machine word of so many bits with a sign. -/
def fitsSigned (bits : Nat) (n : Int) : Bool :=
  let half : Int := Nat.pow 2 (bits - 1)
  n < half && -half ≤ n

/-- The date and the time of day of a moment, unless it is too far away. -/
def dateAndTime? (t : Time) : Except MomentFault (CalendarDate × ClockTime) :=
  let micros := roundHalfEven (t * 1000000)
  let seconds := micros / 1000000
  let year := (yearMonthDay (micros / 86400000000)).1
  if !fitsSigned 64 seconds then .error .tooFar
  else if !fitsSigned 32 (year - 1900) then .error .yearTooLarge
  else if year < 1 || 9999 < year then .error (.noSuchYear year)
  else .ok (dateAndTime t)

/-- A moment in the form `1970-01-01T00:16:40Z`. -/
def momentText (t : Time) : Except MomentFault String :=
  (dateAndTime? t).map fun (d, c) => d.shown ++ "T" ++ c.shown ++ "Z"

end GatedPipeline
