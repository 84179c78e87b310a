import Casebook.Collection.Client
import Casebook.Metrics.Basic

/-!
# Gatherings

Asking every source at once under a budget of time. Each source has a task that ends at some moment in
some way; the tasks that end before the budget does are joined, in whatever order they come, and a
source without a joined task has run out of time.
-/

namespace Casebook.Collection

inductive Ending where
  | gave (o : Outcome)
  /-- The client broke down while it worked. -/
  | broke
  /-- The task itself is lost. -/
  | lost
  deriving DecidableEq

/-- The time that collecting has, in whole milliseconds. -/
structure Budget where
  /-- What each source has. -/
  source : Nat
  /-- What all of them have together. -/
  total : Nat
  deriving DecidableEq, Repr

/-- The budget of a time for each source and a time for all; a started millisecond counts whole. -/
def Budget.of (perSource total : Span) : Budget :=
  ⟨(perSource.shorter total).ceilMillis, total.ceilMillis⟩

/-- The task of a source: after how many milliseconds it ends, and how. -/
structure Task where
  source : Source
  moment : Nat
  ending : Ending
  deriving DecidableEq

/-- When and how a behaviour ends under a budget. An answer at the last moment is one. -/
def Behaviour.run (b : Budget) : Behaviour → Nat × Ending
  | .answers o => (0, .gave o)
  | .answersAfter wait o =>
    if wait.ceilMillis ≤ b.source then (wait.ceilMillis, .gave o) else (b.source, .gave .timeout)
  | .hangs => (b.source, .gave .timeout)
  | .breaks => (0, .broke)
  | .vanishes => (0, .lost)

def tasks (b : Budget) (cs : List Client) : List Task :=
  (Client.registered cs).map fun c =>
    let (moment, ending) := c.behaviour.run b
    ⟨c.source, moment, ending⟩

def inTime (b : Budget) (ts : List Task) : List Task :=
  ts.filter fun t => t.moment < b.total

/-- How long joining takes: until the last task ends, or as long as the budget allows. -/
def wait (b : Budget) (ts : List Task) : Nat :=
  if ts.all fun t => t.moment < b.total then (ts.map (·.moment)).foldl max 0 else b.total

structure Gathering where
  /-- An outcome for each source whose task was joined, the latest first. -/
  outcomes : List (Source × Outcome)
  /-- The sources whose client broke down. -/
  broken : List Source
  /-- How many tasks were lost. -/
  lost : Nat
  deriving DecidableEq

namespace Gathering

def empty : Gathering := ⟨[], [], 0⟩

/-- Joins a task. A source whose client broke down counts as failed without a status. -/
def join (g : Gathering) (t : Task) : Gathering :=
  match t.ending with
  | .gave o => { g with outcomes := (t.source, o) :: g.outcomes }
  | .broke =>
    { g with
      outcomes := (t.source, .failed none) :: g.outcomes
      broken := t.source :: g.broken }
  | .lost => { g with lost := g.lost + 1 }

def ofTasks (ts : List Task) : Gathering := ts.foldl join empty

/-- The outcome of a source: it has run out of time if its task was not joined. -/
def outcome (g : Gathering) (s : Source) : Outcome := (g.outcomes.lookup s).getD .timeout

def outcomesOf (g : Gathering) (sources : List Source) : List (Source × Outcome) :=
  sources.map fun s => (s, g.outcome s)

end Gathering
end Casebook.Collection

namespace Casebook.Metrics

open Collection (Gathering)

def countGathered (g : Gathering) (m : Metrics) (s : Source) : Metrics :=
  if s ∈ g.broken then m.countPanic s else m.countOutcome s (g.outcome s)

/-- Counts a gathering: first the tasks that were lost, then each of some sources. -/
def countGathering (m : Metrics) (sources : List Source) (g : Gathering) : Metrics :=
  sources.foldl (countGathered g) (Nat.repeat (countFailure · .aggregate) g.lost m)

end Casebook.Metrics
