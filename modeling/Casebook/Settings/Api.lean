import Casebook.Net.Address
import Casebook.Settings.Variables
import Casebook.Text.Parts
import Casebook.Text.Quoted
import Casebook.Time.Span

/-!
# Settings of the HTTP surface

Where the service listens, which origins may read its answers, and how long a request may take. Loading
never fails.
-/

namespace Casebook

open Log (Noted)
open Settings (Variables)

structure ApiSettings where
  bindHost : String
  port : Nat
  /-- The origins that may read answers; none listed means any. -/
  corsOrigins : List String
  corsMaxAge : Nat
  requestTimeout : Span
  deriving DecidableEq, Repr

namespace ApiSettings

def default : ApiSettings where
  bindHost := "0.0.0.0"
  port := 3000
  corsOrigins := []
  corsMaxAge := 86400
  requestTimeout := .ofSeconds 10

def logTarget : String := "timeline_api::config"

def badNumber (name raw : String) (fault : Decimal.NumberFault) : Log.Line :=
  ⟨.warning, logTarget, "Invalid setting, using default",
    [("key", .string name), ("value", .string raw), ("error", .string fault.message)]⟩

def number? (limit : Nat) (name raw : String) : Noted (Option Nat) :=
  match Decimal.read limit (Text.trim raw.toList) with
  | .ok n => ⟨some n, []⟩
  | .error fault => ⟨none, [badNumber name raw fault]⟩

/-- The number in the first of some variables that is there. -/
def firstNumber? (limit : Nat) (vars : Variables) : List String → Noted (Option Nat)
  | [] => ⟨none, []⟩
  | name :: r =>
    match vars.get? name with
    | some raw => number? limit name raw
    | none => firstNumber? limit vars r

/-- The pieces of a text between commas, without blanks around them, those that are left. -/
def pieces (s : String) : List String :=
  ((Text.cut ',' s).map Text.trimmed).filter (· ≠ "")

def zeroTimeout : Log.Line :=
  ⟨.warning, logTarget, "TIMELINE_REQUEST_TIMEOUT_MS must be positive, using default", []⟩

def timeout? (vars : Variables) : Noted (Option Span) := do
  match ← firstNumber? Decimal.max64 vars ["TIMELINE_REQUEST_TIMEOUT_MS"] with
  | none => return none
  | some 0 => do
    Noted.note zeroTimeout
    return none
  | some n => return some (.ofMillis n)

def load (vars : Variables) : Noted ApiSettings := do
  let port ← firstNumber? Decimal.max16 vars ["PORT", "TIMELINE_API_PORT"]
  let maxAge ← firstNumber? Decimal.max64 vars ["TIMELINE_CORS_MAX_AGE_SECS"]
  let timeout ← timeout? vars
  return {
    bindHost := (vars.trimmed? "TIMELINE_API_BIND").getD default.bindHost
    port := port.getD default.port
    corsOrigins := ((vars.get? "TIMELINE_CORS_ORIGINS").map pieces).getD []
    corsMaxAge := maxAge.getD default.corsMaxAge
    requestTimeout := timeout.getD default.requestTimeout }

def bindAddress? (s : ApiSettings) : Option Net.Address :=
  Net.Address.read? s!"{s.bindHost}:{Decimal.natText s.port}"

def badAddress : String := "invalid socket address syntax"

def isProduction (s : ApiSettings) : Bool := !s.corsOrigins.isEmpty

/-- What a request is given beyond the time for collecting. -/
def timeoutMargin : Span := .ofSeconds 1

/-- The timeout that requests have: never less than collecting may take, and a margin. -/
def effectiveTimeout (s : ApiSettings) (aggregationDeadline : Span) : Span :=
  s.requestTimeout.longer (aggregationDeadline.plus timeoutMargin)

end ApiSettings
end Casebook
