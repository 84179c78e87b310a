import Casebook.Decimal.Digits
import Casebook.Decimal.Notation
import Casebook.Metrics.Basic

/-!
# The metrics page

Every family of counts as lines of text: a help line, a type line and one line for each sample. Families
stand in the order of their names, the samples of a family in the order of their label values; a family
without labels in use is left out.
-/

namespace Casebook.Metrics

open Decimal (Binary64 Layout natText)

abbrev Label := String × String

def escaped (s : String) : String :=
  String.ofList (s.toList.flatMap fun c =>
    if c = '\\' then ['\\', '\\']
    else if c = '"' then ['\\', '"']
    else if c = '\n' then ['\\', 'n']
    else [c])

def labelText (l : Label) : String := l.1 ++ "=\"" ++ escaped l.2 ++ "\""

def sampleLine (name : String) (labels : List Label) (value : String) : String :=
  name ++ "\x7b" ++ ",".intercalate (labels.map labelText) ++ "\x7d " ++ value

/-- Labelled things in the order of their label values. -/
def inLabelOrder {α : Type} (children : List (List Label × α)) : List (List Label × α) :=
  children.mergeSort fun a b => !(b.1.map (·.2) < a.1.map (·.2))

/-- A family: its help line, its type line and the lines of its children; nothing without children. -/
def familyLines {α : Type} (name help kind : String) (lines : List Label → α → List String)
    (children : List (List Label × α)) : List String :=
  if children.isEmpty then []
  else [s!"# HELP {name} {help}", s!"# TYPE {name} {kind}"] ++
    (inLabelOrder children).flatMap fun c => lines c.1 c.2

def counterLines {κ : Type} (name help : String) (labels : κ → List Label) (t : Tally κ) :
    List String :=
  familyLines name help "counter" (fun ls n => [sampleLine name ls (natText n)])
    (t.entries.map fun e => (labels e.1, e.2))

def numberText (d : Binary64) : String := String.ofList (Layout.page.render d)

def bound (millis : Nat) : Binary64 := Binary64.ratio millis 1000

def atMost (limit : Binary64) (seconds : List Binary64) : Nat :=
  seconds.countP fun s => s.atMost limit

def total (seconds : List Binary64) : Binary64 :=
  seconds.foldl Binary64.plus (.zero false)

/-- The lines of observed numbers: buckets, the sum and the count. The last bucket holds everything. -/
def observedLines (name : String) (bounds : List Nat) (labels : List Label)
    (seconds : List Binary64) : List String :=
  let bucket (le : String) (n : Nat) :=
    sampleLine (name ++ "_bucket") (labels ++ [("le", le)]) (natText n)
  bounds.map (fun b => bucket (numberText (bound b)) (atMost (bound b) seconds)) ++
    [bucket "+Inf" seconds.length,
      sampleLine (name ++ "_sum") labels (numberText (total seconds)),
      sampleLine (name ++ "_count") labels (natText seconds.length)]

def histogramLines {κ : Type} (name help : String) (bounds : List Nat) (labels : κ → List Label)
    (s : Samples κ) : List String :=
  familyLines name help "histogram" (observedLines name bounds)
    (s.entries.map fun e => (labels e.1, e.2))

/-- The bounds, in milliseconds, for how long timelines take. -/
def collectionBounds : List Nat := [5, 10, 25, 50, 100, 250, 500, 1000, 2000, 5000, 10000]

def requestBounds : List Nat := [1, 5, 10, 25, 50, 100, 250, 500, 1000, 2500, 5000, 10000]

def RouteLabel.labels (r : RouteLabel) : List Label := [("method", r.method), ("path", r.route)]

def collectionFamily : String := "support_timeline_collect_seconds"

def durationFamily : String := "timeline_http_request_duration_seconds"

def page (m : Metrics) : List String :=
  counterLines "support_timeline_cache_events_total" "Timeline cache events by type"
      (fun e => [("event", e.label)]) m.cacheEvents ++
    histogramLines collectionFamily "Time to produce a case timeline" collectionBounds
      (fun o => [("source", o.label)]) m.collections ++
    counterLines "support_timeline_collection_failures_total"
      "Timeline collection failures by stage" (fun s => [("stage", s.label)]) m.failures ++
    counterLines "support_timeline_source_outcomes_total" "Per-source collection outcomes"
      (fun l => [("outcome", l.outcome), ("source", l.source.label)]) m.outcomes ++
    histogramLines durationFamily "HTTP request duration in seconds" requestBounds
      RouteLabel.labels m.durations ++
    counterLines "timeline_http_requests_total" "Total number of HTTP requests"
      (fun r => r.route.labels ++ [("status", natText r.status)]) m.requests

end Casebook.Metrics
