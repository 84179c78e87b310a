import Casebook.Cache.Shelf
import Casebook.Collection.Gathering
import Casebook.Settings.Timeline

/-!
# The service

Timelines of cases: from the cache while they are fresh, else collected from all sources and kept.
Faults of the cache are counted and never reach the reader: a fault of reading counts as nothing found,
a fault of writing changes nothing about the answer. Only a deadline or a clock beyond what clocks can
show ends the work without one.
-/

namespace Casebook

open Cache (Store Clock)
open Collection (Client Behaviour Budget Gathering)
open Decimal (Binary64)
open Metrics (CacheEvent Origin)

inductive Breakdown where
  /-- A deadline beyond what the clock of the machine can show. -/
  | deadline
  /-- A time beyond the last instant. -/
  | clock
  | anyOrigin
  deriving DecidableEq, Repr

/-- A service with all that it remembers. -/
structure Service where
  settings : TimelineSettings
  clients : List Client
  store : Store
  metrics : Metrics
  /-- The instant by which freshness is judged. -/
  today : Instant
  /-- How long the service has waited so far. -/
  elapsed : Span
  /-- The clock of the store. -/
  storeClock : Clock

namespace Service

def new (settings : TimelineSettings) (clients : List Client) (store : Store) (storeClock : Clock)
    (today : Instant) : Service :=
  ⟨settings, clients, store, .fresh, today, .zero, storeClock⟩

def sources (s : Service) : List Source := Client.sources s.clients

def count (s : Service) (e : CacheEvent) : Service :=
  { s with metrics := s.metrics.countCache e }

/-- The seconds of a span in double precision: the whole ones and the part are rounded before they are
added. -/
def secondsOf (t : Span) : Binary64 :=
  (Binary64.ofInt t.seconds).plus (Binary64.ratio t.subsecond Span.perSecond)

def observe (s : Service) (o : Origin) (took : Span) : Service :=
  { s with metrics := s.metrics.observeCollection o (secondsOf took) }

def look (s : Service) (c : CaseId) : Option Timeline × Service :=
  let (found, store) := s.store.load s.storeClock c
  let s := { s with store }
  match found with
  | .ok (some e) => if e.isFreshAt s.today then (some e.timeline, s.count .hit) else (none, s.count .miss)
  | .ok none => (none, s.count .miss)
  | .error _ => (none, (s.count .error).count .miss)

def keep (s : Service) (c : CaseId) (t : Timeline) : Service :=
  let entry := Entry.keep c t s.today (s.settings.ttlFor t.degraded)
  let (kept, store) := s.store.keep s.storeClock entry
  let s := { s with store }
  match kept with
  | .ok _ => s.count .write
  | .error _ => s.count .error

def reaches (s : Service) (t : Span) : Bool :=
  s.storeClock.elapsed.nanos + s.elapsed.nanos + t.nanos < Clock.limit

def budget (s : Service) : Budget :=
  .of s.settings.perSourceTimeout s.settings.aggregationDeadline

def sourceDeadline (s : Service) : Span :=
  ⟨s.elapsed.nanos + (s.settings.perSourceTimeout.shorter s.settings.aggregationDeadline).nanos⟩

/-- Asks every source and merges what came in time. Without any time nobody is asked. -/
def collect (s : Service) : Except Breakdown (Timeline × Service) :=
  if s.reaches s.settings.aggregationDeadline && s.reaches s.settings.perSourceTimeout then
    let tasks := Collection.tasks s.budget s.clients
    let gathering := Gathering.ofTasks (Collection.inTime s.budget tasks)
    let took := Span.ofMillis (Collection.wait s.budget tasks)
    let asked :=
      if s.budget.total = 0 then s.clients else Client.askAll s.sourceDeadline s.clients
    let s := { s with
      clients := asked
      metrics := s.metrics.countGathering s.sources gathering
      elapsed := s.elapsed.plus took }
    .ok (Timeline.merge (gathering.outcomesOf s.sources), s.observe .remote took)
  else .error .deadline

def renew (s : Service) (c : CaseId) : Except Breakdown (Timeline × Service) :=
  s.collect.map fun (t, s) => (t, s.keep c t)

/-- The timeline of a case; if it is forced, the cache is not asked. -/
def get (s : Service) (forced : Bool) (c : CaseId) : Except Breakdown (Timeline × Service) :=
  if forced then s.renew c
  else
    match s.look c with
    | (some t, s) => .ok (t, s.observe .cache .zero)
    | (none, s) => s.renew c

def invalidate (s : Service) (c : CaseId) : Except CacheFault Bool × Service :=
  let (dropped, store) := s.store.drop c
  let s := { s with store }
  (dropped, s.count (if dropped.toBool then .invalidate else .error))

/-- Drops the timeline of a case, if the cache allows it, and collects it anew. -/
def refresh (s : Service) (c : CaseId) : Except Breakdown (Timeline × Service) :=
  (s.invalidate c).2.get true c

/-- The longest span that wall clocks count: milliseconds that fill sixty-four bits with a sign. -/
def longestShift : Span := .ofMillis (1 <<< 63 - 1)

/-- What a longer span is taken for: a hundred years of 365 days. -/
def standInShift : Span := .ofSeconds (36500 * Instant.perDay)

def advance (s : Service) (shift : Span) : Except Breakdown Service :=
  match s.today.plus? (if longestShift < shift then standInShift else shift) with
  | some today => .ok { s with today }
  | none => .error .clock

end Service
end Casebook
