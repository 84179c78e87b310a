import Casebook.Http.Site
import Casebook.Log
import Casebook.Service.Overview

/-!
# Startup

From variables to a running service: settings are loaded and checked, the cache is opened, a client is
made for every source that has a base, the surface is set up and an address is listened at. Every step
says what it did; the first one that fails ends the start.
-/

namespace Casebook

open Collection (Behaviour)
open Feed (Endpoint)
open Http (Site)
open Log (Line Noted)
open Settings (Variables)

inductive StartFault where
  | problem (p : Problem)
  | breakdown (b : Breakdown)

/-- A step of a start: its value or why there is none, and what it says. -/
abbrev Starting := ExceptT StartFault Noted

structure Wiring where
  settings : TimelineSettings
  store : Cache.Store

/-- The service of a wiring; `behaviour` says how the source behind an endpoint behaves. -/
def Wiring.service (w : Wiring) (behaviour : Endpoint → Behaviour) (storeClock : Cache.Clock)
    (today : Instant) : Service :=
  .new w.settings (w.settings.endpoints.map fun e => .new e.source (behaviour e)) w.store storeClock
    today

namespace Startup

def failSetting {α : Type} (f : SettingFault) : Starting α := do
  Noted.note ⟨.error, "timeline_api::error", "Configuration error", [("error", .string f.message)]⟩
  throw (.problem (.ofSetting f))

def failCache {α : Type} (f : CacheFault) : Starting α := do
  Noted.note ⟨.error, "timeline_api::error", "Cache error", [("error", .string f.message)]⟩
  throw (.problem (.ofCache f))

def openStore (url : String) : Starting Cache.Store := do
  match Cache.Store.openUrl url with
  | .error f => failCache f
  | .ok store => do
    Noted.note ⟨.info, "timeline_storage::cache::backend_url", "Cache backend opened",
      [("backend", .string store.name)]⟩
    return store

def stateTarget : String := "timeline_api::state"

def registration (e : Endpoint) : Line :=
  ⟨.info, "timeline_sources", "Registered upstream source",
    [("source", .string e.source.label), ("base_url", .string e.base)]⟩

def registrations (s : TimelineSettings) : List Line :=
  if s.endpoints.isEmpty then
    [⟨.warning, stateTarget,
      "No upstream sources configured; timelines will always be empty", []⟩]
  else s.endpoints.map registration

def wire (s : TimelineSettings) : Starting Wiring := do
  if let .error f := s.check then failSetting f
  let store ← openStore s.backendUrl
  for line in registrations s do
    Noted.note line
  Noted.note ⟨.info, stateTarget, "Timeline aggregator configured",
    [("cache_backend", .string store.name), ("sources", .int s.endpoints.length),
      ("cache_ttl_secs", .int s.completeTtl.seconds),
      ("degraded_ttl_secs", .int s.degradedTtl.seconds)]⟩
  return ⟨s, store⟩

def routesTarget : String := "timeline_api::routes"

/-- The lines about the surface: a timeout that had to be raised, and who may read answers. -/
def surfaceLines (api : ApiSettings) (aggregationDeadline : Span) : List Line :=
  let applied := api.effectiveTimeout aggregationDeadline
  let raised := if api.requestTimeout < applied then
      [⟨.warning, routesTarget,
        "Request timeout shorter than aggregation deadline, raising it",
        [("configured_ms", .int (api.requestTimeout.millis % 1 <<< 64 : Nat)),
          ("applied_ms", .int (applied.millis % 1 <<< 64 : Nat))]⟩]
    else []
  let reach := if api.isProduction then
      "Production mode - allowing origins: [" ++
        ", ".intercalate (api.corsOrigins.map Text.quoted) ++ "]"
    else "Development mode - allowing all origins"
  raised ++ [⟨.info, routesTarget, "CORS: " ++ reach, []⟩]

def surface (api : ApiSettings) (aggregationDeadline : Span) : Starting Site := do
  for line in surfaceLines api aggregationDeadline do
    Noted.note line
  match Site.ofSettings api aggregationDeadline with
  | .ok site => return site
  | .error b => throw (.breakdown b)

def telemetry (vars : Variables) : Starting TelemetrySettings := do
  match TelemetrySettings.load vars with
  | .error p => throw (.problem p)
  | .ok s =>
    match s.checkEndpoint with
    | .error p => throw (.problem p)
    | .ok _ => do
      Noted.note ⟨.info, "timeline_api::telemetry::tracer", "Telemetry initialized",
        [("service_name", .string s.serviceName), ("environment", .string s.environment),
          ("otlp_endpoint", .string (overviewOption s.endpoint))]⟩
      return s

def serverTarget : String := "timeline_api_original"

def address (api : ApiSettings) : Starting Net.Address := do
  match api.bindAddress? with
  | some a => return a
  | none =>
    throw (.problem (.plain .internalError s!"Invalid bind address: {ApiSettings.badAddress}"))

/-- What is said of an address that the machine does not have. -/
def foreignAddress : String := "Cannot assign requested address"

def listen (a : Net.Address) : Starting Unit := do
  Noted.note ⟨.info, serverTarget, "Starting timeline API server", [("addr", .string a.text)]⟩
  if !a.isEverywhere then
    let parts := overview "Os" [("code", "99"), ("kind", "AddrNotAvailable"),
      ("message", Text.quoted foreignAddress)]
    Noted.note ⟨.error, "timeline_api::error", s!"I/O error: {parts}", []⟩
    throw (.problem (.ofIo s!"{foreignAddress} (os error 99)"))

def farewell : Line := ⟨.info, serverTarget, "Shutdown signal received", []⟩

structure Running where
  wiring : Wiring
  site : Site
  address : Net.Address

def run (vars : Variables) : Starting Running := do
  let _ ← telemetry vars
  let api ← ApiSettings.load vars
  let settings ← TimelineSettings.load vars
  let wiring ← wire settings
  let site ← surface api settings.aggregationDeadline
  let a ← address api
  listen a
  return ⟨wiring, site, a⟩

def lastWords : StartFault → String
  | .problem p =>
    let parts := overview "ApiError" [("code", p.code.title), ("message", Text.quoted p.message),
      ("details", "None")]
    s!"Error: {parts}\n"
  | .breakdown _ => ""

def exitCode : StartFault → Nat
  | .problem _ => 1
  | .breakdown _ => 101

def variableNames : List String :=
  ["TIMELINE_TRACE_SAMPLE_RATE", "TIMELINE_OTLP_ENDPOINT", "TIMELINE_SERVICE_NAME",
    "TIMELINE_SERVICE_VERSION", "TIMELINE_ENVIRONMENT", "TIMELINE_API_BIND", "PORT",
    "TIMELINE_API_PORT", "TIMELINE_CORS_ORIGINS", "TIMELINE_CORS_MAX_AGE_SECS",
    "TIMELINE_REQUEST_TIMEOUT_MS", "TIMELINE_CACHE_TTL_SECONDS", "TIMELINE_DEGRADED_TTL_SECONDS",
    "TIMELINE_PER_SOURCE_TIMEOUT_MS", "TIMELINE_AGGREGATION_DEADLINE_MS", "ORDER_SERVICE_URL",
    "PAYMENT_SERVICE_URL", "FULFILLMENT_SERVICE_URL", "CACHE_BACKEND_URL", "TIMELINE_UPSTREAM_PATH"]

end Startup
end Casebook
