-- The cap on bodies that run at the same time, over all runs of a host.
namespace GatedPipeline

/-- A number of slots, and who holds one. Without a limit, or with a limit of zero, there is
always a slot. -/
structure Budget where
  limit : Option Int := none
  holders : List String := []
  deriving Inhabited

namespace Budget

/-- The message about a limit below zero, which no budget can have. -/
def badLimitMessage : String := "semaphore initial value must be >= 0"

def unlimited (b : Budget) : Bool := b.limit.all (· = 0)

/-- Whether there is a slot now. -/
def hasRoom (b : Budget) : Bool := b.unlimited || b.limit.all fun n => (b.holders.length : Int) < n

/-- Waits for a slot. Each time it finds none it asks whether it is cancelled, and it is from
the `n`-th time on. Gives whether it got a slot, and how often it asked. -/
def enter (b : Budget) (who : String) (n : Nat) : (Bool × Nat) × Budget :=
  if b.unlimited then ((true, 0), b)
  else if b.hasRoom then ((true, 0), { b with holders := b.holders ++ [who] })
  else ((false, max 1 n), b)

/-- Gives back a slot. Who got none gives none back. -/
def leave (b : Budget) (who : String) : Budget := { b with holders := b.holders.erase who }

end Budget

end GatedPipeline
