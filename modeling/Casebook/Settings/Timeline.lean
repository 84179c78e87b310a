import Casebook.Fault
import Casebook.Feed.Endpoint
import Casebook.Settings.Variables
import Casebook.Time.Span

/-!
# Settings of timelines

How long timelines are kept, how long sources may take, where they are and where the cache is. Loading
never fails; checking names the first thing that does not fit.
-/

namespace Casebook

open Log (Noted)
open Settings (Variables BySource)

structure TimelineSettings where
  /-- How long a complete timeline is kept. -/
  completeTtl : Span
  /-- How long a degraded timeline is kept. -/
  degradedTtl : Span
  perSourceTimeout : Span
  aggregationDeadline : Span
  /-- The bases of the sources that are asked. -/
  urls : BySource (Option String)
  backendUrl : String
  path : String
  deriving DecidableEq, Repr

namespace TimelineSettings

def default : TimelineSettings where
  completeTtl := .ofSeconds 300
  degradedTtl := .ofSeconds 30
  perSourceTimeout := .ofMillis 2000
  aggregationDeadline := .ofMillis 5000
  urls := ⟨none, none, none⟩
  backendUrl := "memory://"
  path := s!"/cases/{Feed.placeholder}/events"

def badNumber (name raw : String) (standIn : Nat) : Log.Line :=
  ⟨.warning, "timeline_core::config", "Invalid numeric setting, using default",
    [("key", .string name), ("value", .string raw), ("default", .int standIn)]⟩

def number? (vars : Variables) (name : String) (standIn : Nat) : Noted (Option Nat) :=
  match vars.get? name with
  | none => ⟨none, []⟩
  | some raw =>
    match Decimal.read Decimal.max64 (Text.trim raw.toList) with
    | .ok n => ⟨some n, []⟩
    | .error _ => ⟨none, [badNumber name raw standIn]⟩

def seconds (vars : Variables) (name : String) (standIn : Span) : Noted Span :=
  (fun n => (n.map Span.ofSeconds).getD standIn) <$> number? vars name standIn.seconds

def millis (vars : Variables) (name : String) (standIn : Span) : Noted Span :=
  (fun n => (n.map Span.ofMillis).getD standIn) <$> number? vars name standIn.millis

/-- The base in a variable, without blanks around it and slashes at its end, if anything is left. -/
def base? (vars : Variables) (name : String) : Option String :=
  ((vars.get? name).map fun raw =>
    String.ofList (Text.dropTrailing '/' (Text.trim raw.toList))).filter (· ≠ "")

def load (vars : Variables) : Noted TimelineSettings := do
  let completeTtl ← seconds vars "TIMELINE_CACHE_TTL_SECONDS" default.completeTtl
  let degradedTtl ← seconds vars "TIMELINE_DEGRADED_TTL_SECONDS" default.degradedTtl
  let perSourceTimeout ← millis vars "TIMELINE_PER_SOURCE_TIMEOUT_MS" default.perSourceTimeout
  let aggregationDeadline ←
    millis vars "TIMELINE_AGGREGATION_DEADLINE_MS" default.aggregationDeadline
  return {
    completeTtl, degradedTtl, perSourceTimeout, aggregationDeadline
    urls := ⟨base? vars "ORDER_SERVICE_URL", base? vars "PAYMENT_SERVICE_URL",
      base? vars "FULFILLMENT_SERVICE_URL"⟩
    backendUrl := (vars.trimmed? "CACHE_BACKEND_URL").getD default.backendUrl
    path := (vars.trimmed? "TIMELINE_UPSTREAM_PATH").getD default.path }

/-- The sources that are asked, in their order of precedence. -/
def configuredSources (s : TimelineSettings) : List Source :=
  Source.all.filter fun source => (s.urls.get source).isSome

def endpoints (s : TimelineSettings) : List Feed.Endpoint :=
  Source.all.filterMap fun source =>
    (s.urls.get source).map fun base => .ofBase source base s.path

def ttlFor (s : TimelineSettings) (degraded : Bool) : Span :=
  if degraded then s.degradedTtl else s.completeTtl

def checkSpan (name : String) (s : Span) : Except SettingFault Unit :=
  if s.nanos = 0 then .error (.invalid name s.text "must be greater than zero") else .ok ()

def checkOrder (name : String) (a : Span) (otherName : String) (b : Span) :
    Except SettingFault Unit :=
  if b < a then .error (.incompatible s!"{name}={a.text}" s!"{otherName}={b.text}") else .ok ()

/-- A base must name a scheme. -/
def checkBase (s : TimelineSettings) (source : Source) : Except SettingFault Unit :=
  match s.urls.get source with
  | none => .ok ()
  | some url =>
    if url.startsWith "http://" || url.startsWith "https://" then .ok ()
    else .error (.invalid s!"{source.label}_service_url" url
      "must start with http:// or https://")

/-- A path must start at the root and have a place for the case id. -/
def checkPath (path : String) : Except SettingFault Unit :=
  if path.startsWith "/" && Text.occursIn Feed.placeholder.toList path.toList then .ok ()
  else .error (.invalid "upstream_path" path
    s!"must start with '/' and contain {Feed.placeholder}")

/-- Checks the settings and names the first fault. -/
def check (s : TimelineSettings) : Except SettingFault Unit := do
  checkSpan "cache_ttl" s.completeTtl
  checkSpan "degraded_ttl" s.degradedTtl
  checkSpan "per_source_timeout" s.perSourceTimeout
  checkSpan "aggregation_deadline" s.aggregationDeadline
  checkOrder "degraded_ttl" s.degradedTtl "cache_ttl" s.completeTtl
  checkOrder "per_source_timeout" s.perSourceTimeout "aggregation_deadline" s.aggregationDeadline
  for source in Source.all do
    checkBase s source
  checkPath s.path

end TimelineSettings
end Casebook
