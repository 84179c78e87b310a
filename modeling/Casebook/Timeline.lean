import Casebook.Outcome

/-!
# Timelines

All events of a case in one order: by time, then by the precedence of their sources, then as their
source sent them. A timeline is degraded if some source gave no events, and names the missing ones.
-/

namespace Casebook

structure Timeline where
  events : List Event
  degraded : Bool
  missing : SourceSet
  deriving DecidableEq

namespace Timeline

def empty : Timeline := ⟨[], false, SourceSet.empty⟩

/-- Whether an event may stand before another. -/
def inOrder (a b : Event) : Bool :=
  a.occurredAt < b.occurredAt || (a.occurredAt = b.occurredAt && a.source ≤ b.source)

/-- Merges what the sources gave; of several outcomes of one source the last one counts. -/
def merge (outcomes : List (Source × Outcome)) : Timeline :=
  let last (s : Source) := outcomes.reverse.lookup s
  let given := Source.all.filterMap fun s => (last s).map fun o => (s, o)
  let missing := SourceSet.ofList ((given.filter fun g => !g.2.isSuccess).map (·.1))
  { events := (given.flatMap fun g => g.2.events).mergeSort inOrder
    degraded := !missing.isEmpty
    missing }

def isEmpty (t : Timeline) : Bool := t.events.isEmpty

def isOrdered : List Event → Bool
  | a :: b :: r => inOrder a b && isOrdered (b :: r)
  | _ => true

def isComplete (t : Timeline) : Bool :=
  !t.degraded && t.missing.isEmpty

/-- Whether exactly the given sources are missing; a source given twice is never matched. -/
def misses (t : Timeline) (sources : List Source) : Bool :=
  t.degraded && t.missing.members = sources.mergeSort (fun a b => a ≤ b)

end Timeline
end Casebook
