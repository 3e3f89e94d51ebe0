-- A gate table whose listeners go by names. Each subscription is one of its
-- own, and the name stands for the newest of them, also when that has ended.
import GatedPipeline.Gate.Table
namespace GatedPipeline

/-- A listener: its name, and the number of the subscription. -/
abbrev NamedListener := String × Nat

structure GateDesk where
  table : GateTable NamedListener := {}
  /-- The newest subscription of each name. -/
  newest : List (String × Nat) := []
  /-- How many subscriptions there have been. -/
  count : Nat := 0
  deriving Inhabited

namespace GateDesk

/-- Subscribes a listener once more. -/
def subscribe (d : GateDesk) (name : String) : GateDesk :=
  { table := d.table.subscribe (name, d.count)
    newest := putPair name d.count d.newest
    count := d.count + 1 }

/-- Ends the newest subscription of a listener, if it has not ended yet; none when the listener
has never subscribed. -/
def unsubscribe? (d : GateDesk) (name : String) : Option GateDesk :=
  (getPair? name d.newest).map fun n => { d with table := d.table.unsubscribe (name, n) }

end GateDesk

end GatedPipeline
