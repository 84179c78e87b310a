import Casebook.Health
import Casebook.OpenApi.Operation
import Casebook.Problem
import Casebook.Source

/-!
# The description of the interface

The document that tells clients what they can ask of the service and what they get.
-/

namespace Casebook.OpenApi

def caseParameter : Parameter :=
  ⟨"case_id", .path, true, "Support case identifier", .text⟩

def badCase : Reply := ⟨400, "Invalid case id", .document "ApiError"⟩

def casePath : String := "/support/cases/\x7bcase_id\x7d"

def operations : List Operation :=
  [{ path := casePath
     method := "get"
     tag := "Cases"
     name := "get_case"
     summary := s!"GET {casePath} - Case view, optionally with its timeline"
     note := none
     parameters := [caseParameter, ⟨"includeTimeline", .query, false,
       "Attach the aggregated timeline to the response.", .boolean⟩]
     replies := [⟨200, "Case view", .document "CaseView"⟩, badCase] },
   { path := casePath ++ "/timeline/refresh"
     method := "post"
     tag := "Cases"
     name := "refresh_timeline"
     summary := s!"POST {casePath}/timeline/refresh - Rebuild the timeline"
     note := none
     parameters := [caseParameter]
     replies := [⟨200, "Freshly collected timeline", .document "Timeline"⟩, badCase] },
   { path := casePath ++ "/timeline"
     method := "delete"
     tag := "Cases"
     name := "invalidate_timeline"
     summary := s!"DELETE {casePath}/timeline - Drop the cached timeline"
     note := none
     parameters := [caseParameter]
     replies := [⟨204, "Cached timeline removed (or was absent)", .nothing⟩, badCase,
       ⟨503, "Cache unavailable", .document "ApiError"⟩] },
   { path := "/health/live"
     method := "get"
     tag := "Health"
     name := "liveness"
     summary := "GET /health/live - Process liveness check"
     note := none
     parameters := []
     replies := [⟨200, "Process is alive", .document "HealthResponse"⟩] },
   { path := "/health/ready"
     method := "get"
     tag := "Health"
     name := "readiness"
     summary := "GET /health/ready - Readiness check (cache reachability)"
     note := none
     parameters := []
     replies := [⟨200, "Service is ready, possibly without its cache",
       .document "HealthResponse"⟩] },
   { path := "/metrics"
     method := "get"
     tag := "Observability"
     name := "metrics_handler"
     summary := "Handler for GET /metrics endpoint."
     note := some "Returns Prometheus text format metrics."
     parameters := []
     replies := [⟨200, "Prometheus metrics in text format", .plainText⟩,
       ⟨500, "Failed to encode metrics", .nothing⟩] }]

def lines (ls : List String) : Option String := some ("\n".intercalate ls)

def schemas : List (String × Schema) :=
  [("ApiError", .fields (some "Structured error response for API operations.")
      [(Field.must "code" (.named "ErrorCode")).noted "Error code categorizing the error",
        (Field.must "message" .text).noted "Human-readable error message",
        (Field.may "details" .anything).noted "Optional additional details"]),
    ("CaseId", .text (lines ["Opaque support case identifier; the aggregation key.", "",
      "A `CaseId` can only be obtained through [`CaseId::parse`], so every value in",
      "circulation is already trimmed and restricted to `[A-Za-z0-9._-]`. That keeps",
      "it safe to splice into cache keys and upstream URL paths."])),
    ("CaseView", .fields (some "A support case as returned to agents.")
      [.must "caseId" (.named "CaseId"), .may "timeline" (.named "Timeline")]),
    ("ComponentHealth", .fields none
      [.must "status" (.named "HealthStatus"), .must "backend" .text, .may "latency_ms" .natural,
        .may "error" .text, .may "entries" .natural, .may "hit_rate" .real]),
    ("ErrorCode", .choice (some "Error codes for API responses.")
      (Problem.Code.all.map Problem.Code.name)),
    ("HealthDetails", .fields none
      [.must "cache" (.named "ComponentHealth"), .must "version" .text,
        .must "uptime_seconds" .natural]),
    ("HealthResponse", .fields (some "Health check response")
      [.must "status" (.named "HealthStatus"), .may "message" .text,
        .may "details" (.named "HealthDetails")]),
    ("HealthStatus", .choice none (HealthStatus.all.map HealthStatus.label)),
    ("Source", .choice (lines ["Upstream system an event came from.", "",
      "Declaration order is the cross-source tie-break precedence used when two",
      "events share an `occurredAt`: `ORDER < PAYMENT < FULFILLMENT`. The derived",
      "`Ord` relies on it, so do not reorder the variants."]) (Source.all.map Source.name)),
    ("Timeline", .fields (lines
      ["Time-ordered view of a case across every registered source.", "",
        "Built fresh by [`Timeline::merge`] on every aggregation run and never",
        "patched afterwards. Contains no wall-clock data of its own, so identical",
        "upstream data always serializes to identical bytes."])
      [.must "events" (.list (.named "TimelineEvent")), .must "degraded" .boolean,
        .must "missingSources" (.set (.named "Source"))]),
    ("TimelineEvent", .fields (some "A single immutable fact on a case timeline.")
      [.must "source" (.named "Source"), .must "occurredAt" .date, .must "kind" .text,
        { Field.may "payload" .texts with nullable := false }])]

def info : Json :=
  .object [("title", .string "Support Case Timeline API"),
    ("description", .string "Aggregated, cached event timelines for support cases"),
    ("contact", .object [("name", .string "Case Timeline Contributors")]),
    ("license", .object [("name", .string "MIT"), ("identifier", .string "MIT")]),
    ("version", .string "0.1.0")]

def tag (name note : String) : Json :=
  .object [("name", .string name), ("description", .string note)]

def document : Json :=
  .object [("openapi", .string "3.1.0"), ("info", info),
    ("paths", .object (operations.map Operation.member)),
    ("components", .object
      [("schemas", .object (schemas.map fun s => (s.1, s.2.toJson)))]),
    ("tags", .array [tag "Cases" "Support case views and timeline cache control",
      tag "Health" "Liveness and readiness checks",
      tag "Observability" "Prometheus metrics"])]

end Casebook.OpenApi
