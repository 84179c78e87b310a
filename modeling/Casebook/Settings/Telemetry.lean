import Casebook.Decimal.Literal
import Casebook.Net.Uri
import Casebook.Problem
import Casebook.Settings.Variables

/-!
# Settings of telemetry

Under which name the service reports, where its traces go, and what share of them is kept. A share that
is no number from zero to one is refused; everything else is taken as it is.
-/

namespace Casebook

open Decimal (Binary64)
open Settings (Variables)

structure TelemetrySettings where
  endpoint : Option String
  serviceName : String
  serviceVersion : String
  environment : String
  sampleRate : Binary64
  deriving DecidableEq

namespace TelemetrySettings

def version : String := "0.1.0"

def one : Binary64 := ⟨0x3ff0000000000000⟩

/-- The share that a text gives, from zero to one. -/
def rate? (raw : String) : Option Binary64 :=
  (Decimal.readBinary64? (Text.trim raw.toList)).filter fun rate =>
    (Binary64.zero false).atMost rate && rate.atMost one

def badRate (raw : String) : Problem :=
  .plain .configurationError
    s!"TIMELINE_TRACE_SAMPLE_RATE must be between 0.0 and 1.0, got {Text.quoted raw}"

def load (vars : Variables) : Except Problem TelemetrySettings := do
  let sampleRate ← match vars.get? "TIMELINE_TRACE_SAMPLE_RATE" with
    | none => .ok one
    | some raw =>
      match rate? raw with
      | some rate => .ok rate
      | none => .error (badRate raw)
  return {
    endpoint := (vars.get? "TIMELINE_OTLP_ENDPOINT").filter fun s => Text.trimmed s ≠ ""
    serviceName := (vars.get? "TIMELINE_SERVICE_NAME").getD "timeline-api"
    serviceVersion := (vars.get? "TIMELINE_SERVICE_VERSION").getD version
    environment := (vars.get? "TIMELINE_ENVIRONMENT").getD "development"
    sampleRate }

def checkEndpoint (s : TelemetrySettings) : Except Problem Unit :=
  match s.endpoint with
  | none => .ok ()
  | some e =>
    match Net.Uri.read e with
    | .ok _ => .ok ()
    | .error f => .error (.plain .internalError
        s!"Failed to create OTLP exporter: invalid URI {e}. Reason {f.message}")

def alreadyStarted : Problem :=
  .plain .internalError
    "Failed to init subscriber: a global default trace dispatcher has already been set"

end TelemetrySettings
end Casebook
