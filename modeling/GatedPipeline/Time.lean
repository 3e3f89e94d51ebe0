-- Moments and spans of time, in seconds, as exact rationals.
namespace GatedPipeline

/-- Seconds since the start of 1970, or a number of seconds. -/
abbrev Time := Rat

/-- The later of two moments. -/
def later (a b : Time) : Time := if a ≤ b then b else a

/-- The earliest of some moments. -/
def earliest? : List Time → Option Time
  | [] => none
  | t :: ts =>
    match earliest? ts with
    | none => some t
    | some u => some (if t ≤ u then t else u)

end GatedPipeline
