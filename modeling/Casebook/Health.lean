import Casebook.Decimal.Binary64

/-!
# Health reports

What the service says of its own state. A cache that cannot be reached leaves the service degraded and
not unhealthy: timelines are still collected.
-/

namespace Casebook

open Decimal (Binary64)

inductive HealthStatus where
  | healthy
  | unhealthy
  | degraded
  deriving DecidableEq, Repr

namespace HealthStatus

def all : List HealthStatus := [.healthy, .unhealthy, .degraded]

def label : HealthStatus → String
  | .healthy => "healthy"
  | .unhealthy => "unhealthy"
  | .degraded => "degraded"

end HealthStatus

structure CacheHealth where
  status : HealthStatus
  backend : String
  latencyMs : Option Nat
  error : Option String
  entries : Option Nat
  hitRate : Option Binary64
  deriving DecidableEq

/-- What a report says beyond the state. -/
structure HealthDetails where
  cache : CacheHealth
  version : String
  uptimeSeconds : Nat
  deriving DecidableEq

structure HealthReport where
  status : HealthStatus
  message : Option String
  details : Option HealthDetails
  deriving DecidableEq

end Casebook
