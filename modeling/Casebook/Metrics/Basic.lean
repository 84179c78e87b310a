import Casebook.Decimal.Binary64
import Casebook.Metrics.Labelled
import Casebook.Outcome

/-!
# Metrics

What the service counts about itself: uses of the cache, failures by stage, outcomes by source, requests
by route, and how long timelines and requests took. Counting never fails. Reading a count uses its
label, so that the label appears on the metrics page from then on.
-/

namespace Casebook

open Decimal (Binary64)

namespace Metrics

inductive CacheEvent where
  | hit
  | miss
  | write
  | invalidate
  | error
  deriving DecidableEq, Repr

namespace CacheEvent

def all : List CacheEvent := [.hit, .miss, .write, .invalidate, .error]

def label : CacheEvent → String
  | .hit => "hit"
  | .miss => "miss"
  | .write => "write"
  | .invalidate => "invalidate"
  | .error => "error"

end CacheEvent

/-- Where a timeline came from. -/
inductive Origin where
  | cache
  | remote
  deriving DecidableEq, Repr

namespace Origin

def all : List Origin := [.cache, .remote]

def label : Origin → String
  | .cache => "cache"
  | .remote => "remote"

end Origin

structure SourceLabel where
  source : Source
  outcome : String
  deriving DecidableEq, Repr

structure RouteLabel where
  method : String
  route : String
  deriving DecidableEq, Repr

structure RequestLabel where
  route : RouteLabel
  status : Nat
  deriving DecidableEq, Repr

abbrev Tally (κ : Type) := Labelled κ Nat

/-- Observed numbers of seconds by label, the latest last. -/
abbrev Samples (κ : Type) := Labelled κ (List Binary64)

variable {κ : Type} [DecidableEq κ]

def Tally.add (t : Tally κ) (k : κ) : Tally κ := t.update 0 k (· + 1)

def Tally.count (t : Tally κ) (k : κ) : Nat := t.value 0 k

def Samples.observe (s : Samples κ) (k : κ) (seconds : Binary64) : Samples κ :=
  s.update [] k (· ++ [seconds])

def Samples.count (s : Samples κ) (k : κ) : Nat := (s.value [] k).length

@[simp] theorem Tally.count_add (t : Tally κ) (k k' : κ) :
    (Tally.add t k).count k' = if k' = k then Tally.count t k + 1 else Tally.count t k' :=
  Labelled.value_update t 0 k k' _

@[simp] theorem Samples.count_observe (s : Samples κ) (k k' : κ) (x : Binary64) :
    (Samples.observe s k x).count k' =
      if k' = k then Samples.count s k + 1 else Samples.count s k' := by
  rw [Samples.count, Samples.observe, Labelled.value_update]
  split <;> simp [Samples.count]

end Metrics

open Metrics

structure Metrics where
  cacheEvents : Tally CacheEvent
  failures : Tally Stage
  outcomes : Tally SourceLabel
  collections : Samples Origin
  requests : Tally RequestLabel
  durations : Samples RouteLabel
  deriving DecidableEq

namespace Metrics

def fresh : Metrics :=
  ⟨.empty, .empty, .empty, .empty, .empty, .empty⟩

def panicLabel : String := "panic"

def countCache (m : Metrics) (e : CacheEvent) : Metrics :=
  { m with cacheEvents := Tally.add m.cacheEvents e }

def countFailure (m : Metrics) (s : Stage) : Metrics :=
  { m with failures := Tally.add m.failures s }

def countSource (m : Metrics) (s : Source) (label : String) : Metrics :=
  { m with outcomes := Tally.add m.outcomes ⟨s, label⟩ }

/-- Counts an outcome of a source and the failure that it may be. -/
def countOutcome (m : Metrics) (s : Source) (o : Outcome) : Metrics :=
  let m := m.countSource s o.label
  match o.stage? with
  | none => m
  | some stage => m.countFailure stage

def countPanic (m : Metrics) (s : Source) : Metrics :=
  (m.countSource s panicLabel).countFailure .aggregate

def observeCollection (m : Metrics) (o : Origin) (seconds : Binary64) : Metrics :=
  { m with collections := Samples.observe m.collections o seconds }

/-- Counts a request and observes how long it took. -/
def countRequest (m : Metrics) (route : RouteLabel) (status : Nat) (seconds : Binary64) : Metrics :=
  { m with
    requests := Tally.add m.requests ⟨route, status⟩
    durations := Samples.observe m.durations route seconds }

def readCache (m : Metrics) (e : CacheEvent) : Nat × Metrics :=
  (Tally.count m.cacheEvents e, { m with cacheEvents := m.cacheEvents.touch 0 e })

def readFailure (m : Metrics) (s : Stage) : Nat × Metrics :=
  (Tally.count m.failures s, { m with failures := m.failures.touch 0 s })

def readSource (m : Metrics) (l : SourceLabel) : Nat × Metrics :=
  (Tally.count m.outcomes l, { m with outcomes := m.outcomes.touch 0 l })

def readCollections (m : Metrics) (o : Origin) : Nat × Metrics :=
  (Samples.count m.collections o, { m with collections := m.collections.touch [] o })

end Metrics
end Casebook
