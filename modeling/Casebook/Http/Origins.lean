import Casebook.Http.Message
import Casebook.Service.Basic
import Casebook.Settings.Api

/-!
# Origins

Which web pages may read the answers of the service: all, or those from listed origins. A listed origin
that is no header value is never matched, and a list stays a list when no origin of it can be matched.
-/

namespace Casebook.Http

inductive Origins where
  | any
  | listed (origins : List String)
  deriving DecidableEq, Repr

namespace Origins

def wildcard : String := "*"

/-- The origins of some settings; any origin must not be one among others. -/
def ofSettings (s : ApiSettings) : Except Breakdown Origins :=
  if !s.isProduction then .ok .any
  else
    let origins := s.corsOrigins.filter isHeaderValue
    if wildcard ∈ origins then .error .anyOrigin else .ok (.listed origins)

/-- What an answer to an origin says of who may read it. -/
def allowed? (o : Origins) (origin : Option Bytes) : Option String :=
  match o with
  | .any => some wildcard
  | .listed origins => origin.bind fun b => origins.find? fun listed => Bytes.ofText listed = b

def requestHeaders : Origins → String
  | .any => wildcard
  | .listed _ => "content-type,accept,traceparent"

def requestMethods : String := "GET,POST,DELETE,OPTIONS"

def mark (o : Origins) (req : Request) (r : Response) : Response :=
  let r := r.withHeader "vary"
    "origin, access-control-request-method, access-control-request-headers"
  match o.allowed? (req.header? "origin") with
  | some origin => r.withHeader "access-control-allow-origin" origin
  | none => r

def preflight (o : Origins) (maxAge : Nat) (req : Request) : Response :=
  (((o.mark req (.bare 200)).withHeader "access-control-allow-methods" requestMethods).withHeader
    "access-control-allow-headers" o.requestHeaders).withHeader
    "access-control-max-age" (Decimal.natText maxAge)

end Origins
end Casebook.Http
