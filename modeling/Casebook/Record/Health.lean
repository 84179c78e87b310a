import Casebook.Health
import Casebook.Json.Record
import Casebook.Json.Printer
import Casebook.Json.Reader

/-!
# Health records

The document forms of health reports. Members that are not there are left out.
-/

namespace Casebook

open Json (Record)

/-- A member that is left out if there is no value. -/
def Json.optionalMember {α : Type} (name : String) (form : α → Json) (v : Option α) :
    List (String × Json) :=
  v.toList.map fun a => (name, form a)

/-- A member of a record that may be missing or null. -/
def Json.Record.optionalAs? {α : Type} (r : Record) (i : Nat) (read : Json → Option α) :
    Option (Option α) :=
  match r.optional? i with
  | none => none
  | some none => some none
  | some (some v) => (read v).map some

def HealthStatus.toJson (s : HealthStatus) : Json := .string s.label

def HealthStatus.ofJson? (v : Json) : Option HealthStatus :=
  Json.named? HealthStatus.label HealthStatus.all v

def CacheHealth.toJson (h : CacheHealth) : Json :=
  .object ([("status", h.status.toJson), ("backend", .string h.backend)] ++
    Json.optionalMember "latency_ms" (fun n : Nat => .int n) h.latencyMs ++
    Json.optionalMember "error" .string h.error ++
    Json.optionalMember "entries" (fun n : Nat => .int n) h.entries ++
    Json.optionalMember "hit_rate" .float h.hitRate)

def CacheHealth.ofJson? (v : Json) : Option CacheHealth := do
  let r ← Record.ofJson? ["status", "backend", "latency_ms", "error", "entries", "hit_rate"] v
  let status ← HealthStatus.ofJson? (← r.required? 0)
  let backend ← (← r.required? 1).asString?
  let latencyMs ← r.optionalAs? 2 Json.asNat?
  let error ← r.optionalAs? 3 Json.asString?
  let entries ← r.optionalAs? 4 Json.asNat?
  let hitRate ← r.optionalAs? 5 Json.asFloat?
  some { status, backend, latencyMs, error, entries, hitRate }

def HealthDetails.toJson (d : HealthDetails) : Json :=
  .object [("cache", d.cache.toJson), ("version", .string d.version),
    ("uptime_seconds", .int d.uptimeSeconds)]

def HealthDetails.ofJson? (v : Json) : Option HealthDetails := do
  let r ← Record.ofJson? ["cache", "version", "uptime_seconds"] v
  let cache ← CacheHealth.ofJson? (← r.required? 0)
  let version ← (← r.required? 1).asString?
  let uptimeSeconds ← (← r.required? 2).asNat?
  some { cache, version, uptimeSeconds }

def HealthReport.toJson (h : HealthReport) : Json :=
  .object ([("status", h.status.toJson)] ++
    Json.optionalMember "message" .string h.message ++
    Json.optionalMember "details" HealthDetails.toJson h.details)

def HealthReport.ofJson? (v : Json) : Option HealthReport := do
  let r ← Record.ofJson? ["status", "message", "details"] v
  let status ← HealthStatus.ofJson? (← r.required? 0)
  let message ← r.optionalAs? 1 Json.asString?
  let details ← r.optionalAs? 2 HealthDetails.ofJson?
  some { status, message, details }

end Casebook
