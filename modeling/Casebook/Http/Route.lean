import Casebook.Text.Parts
import Casebook.Text.Percent

/-!
# Routes

The paths that the service answers, each with its one method. A path is matched as it is written, part
by part; only the part that names a case is decoded, and only after the match.
-/

namespace Casebook.Http

inductive Route where
  | caseView (written : String)
  | refresh (written : String)
  | timeline (written : String)
  | live
  | ready
  | metrics
  | description
  deriving DecidableEq, Repr

namespace Route

def ofParts? : List String → Option Route
  | ["", "support", "cases", c] => if c = "" then none else some (.caseView c)
  | ["", "support", "cases", c, "timeline"] => if c = "" then none else some (.timeline c)
  | ["", "support", "cases", c, "timeline", "refresh"] => if c = "" then none else some (.refresh c)
  | ["", "health", "live"] => some .live
  | ["", "health", "ready"] => some .ready
  | ["", "metrics"] => some .metrics
  | ["", "openapi.json"] => some .description
  | _ => none

def ofPath? (path : String) : Option Route := ofParts? (Text.cut '/' path)

/-- The path of a route, with a mark in the place of the case. -/
def template : Route → String
  | .caseView _ => "/support/cases/:case_id"
  | .refresh _ => "/support/cases/:case_id/timeline/refresh"
  | .timeline _ => "/support/cases/:case_id/timeline"
  | .live => "/health/live"
  | .ready => "/health/ready"
  | .metrics => "/metrics"
  | .description => "/openapi.json"

def methods : Route → List String
  | .refresh _ => ["POST"]
  | .timeline _ => ["DELETE"]
  | _ => ["GET", "HEAD"]

end Route

/-- The text that a written part of a path stands for, if its bytes are one. -/
def decodePart? (written : String) : Option String :=
  (Text.percentDecode (Bytes.ofText written)).toText?

end Casebook.Http
