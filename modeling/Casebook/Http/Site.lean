import Casebook.Http.Origins
import Casebook.Http.Query
import Casebook.Http.Route
import Casebook.Metrics.Page
import Casebook.OpenApi.Document
import Casebook.Record.Case
import Casebook.Record.Health
import Casebook.Record.Problem
import Casebook.Settings.Telemetry

/-!
# The site

The service behind its HTTP surface. A request is first asked for its route; questions about what
requests may be are answered without the service; every other request on a route is counted under the
template of the route, whatever its answer. Faults of the cache fail one kind of request only, those that
drop a timeline; whoever asks whether the service is ready is told of them.
-/

namespace Casebook

open Http

def Service.cacheHealth (s : Service) : CacheHealth × Service :=
  let (there, store) := s.store.ping
  let s := { s with store }
  match there with
  | .error f =>
    (⟨.unhealthy, store.name, none, some f.message, none, none⟩, s)
  | .ok _ =>
    let (stats, store) := s.store.stats
    let stats := stats.toOption
    (⟨.healthy, store.name, some 0, none, stats.map (·.entries), stats.map (·.hitRate)⟩,
      { s with store })

/-- Whether the service is ready: without its cache it is degraded. -/
def Service.readiness (s : Service) : HealthReport × Service :=
  let (cache, s) := s.cacheHealth
  let status : HealthStatus := if cache.status = .healthy then .healthy else .degraded
  (⟨status, none, some ⟨cache, TelemetrySettings.version, s.elapsed.seconds⟩⟩, s)

/-- What a timeout is taken for that ends beyond the clock of the machine: thirty years of 365 days. -/
def standInTimeout : Span := .ofSeconds (10950 * Instant.perDay)

/-- The time after which a timeout ends that begins now. -/
def Service.fitted (s : Service) (timeout : Span) : Span :=
  if s.reaches timeout then timeout else standInTimeout

/-- A service while it waits for its sources in work on a route. -/
def Service.waitingOn (s : Service) (route : Route) : Service :=
  let named? (written : String) : Option CaseId :=
    (decodePart? written).bind fun raw => (CaseId.ofInput raw).toOption
  let s := match route with
    | .caseView written => ((named? written).map fun c => (s.look c).2).getD s
    | .refresh written => ((named? written).map fun c => (s.invalidate c).2).getD s
    | _ => s
  { s with clients := Collection.Client.askAll s.sourceDeadline s.clients }

def HealthReport.alive : HealthReport := ⟨.healthy, some "Process is alive", none⟩

namespace Http

abbrev Answer := Except Breakdown (Response × Service)

def Response.ofProblem (p : Problem) : Response := .ofJson p.code.status p.toJson

/-- Answers about the case that a part of a path names. -/
def onCase (s : Service) (written : String) (answer : CaseId → Answer) : Answer :=
  match decodePart? written with
  | none => .ok (.ofMessage 400 "Invalid URL: Invalid UTF-8 in `case_id`", s)
  | some raw =>
    match CaseId.ofInput raw with
    | .error f => .ok (.ofProblem (.ofInput f), s)
    | .ok c => answer c

def answerCase (s : Service) (query : Option String) (written : String) : Answer :=
  match decodePart? written, readQuery query with
  | some _, .error f => .ok (.ofMessage 400 f.message, s)
  | _, asked => onCase s written fun c =>
    if asked.toOption.getD false then
      (s.get false c).map fun (t, s) => (.ofJson 200 (CaseView.toJson ⟨c, some t⟩), s)
    else .ok (.ofJson 200 (CaseView.toJson ⟨c, none⟩), s)

def answerRefresh (s : Service) (written : String) : Answer :=
  onCase s written fun c => (s.refresh c).map fun (t, s) => (.ofJson 200 t.toJson, s)

def answerDrop (s : Service) (written : String) : Answer :=
  onCase s written fun c =>
    match s.invalidate c with
    | (.ok _, s) => .ok (.bare 204, s)
    | (.error f, s) => .ok (.ofProblem (.ofCache f), s)

def pageText (m : Metrics) : String :=
  String.join (m.page.map fun l => l ++ "\n")

def answerRoute (s : Service) (query : Option String) : Route → Answer
  | .caseView written => answerCase s query written
  | .refresh written => answerRefresh s written
  | .timeline written => answerDrop s written
  | .live => .ok (.ofJson 200 HealthReport.alive.toJson, s)
  | .ready => let (h, s) := s.readiness; .ok (.ofJson 200 h.toJson, s)
  | .metrics => .ok (.ofText 200 "text/plain; version=0.0.4; charset=utf-8" (pageText s.metrics), s)
  | .description => .ok (.ofJson 200 OpenApi.document, s)

def Response.withMethods (r : Response) (route : Route) : Response :=
  r.withHeader "allow" (",".intercalate route.methods)

/-- What is answered to a request on its route, before it is counted. -/
def workOn (s : Service) (req : Request) (route : Route) : Answer :=
  if req.method ∈ route.methods then answerRoute s req.query route
  else .ok ((Response.bare 405).withMethods route, s)

/-- Answers a request on its route and counts it. -/
def answerCounted (s : Service) (req : Request) (route : Route) : Answer :=
  (workOn s req route).map fun (r, after) =>
    let took : Span := ⟨after.elapsed.nanos - s.elapsed.nanos⟩
    (r, { after with
      metrics := after.metrics.countRequest ⟨req.method, route.template⟩ r.status
        (Service.secondsOf took) })

structure Site where
  origins : Origins
  maxAge : Nat
  timeout : Span
  deriving DecidableEq, Repr

namespace Site

def ofSettings (s : ApiSettings) (aggregationDeadline : Span) : Except Breakdown Site :=
  (Origins.ofSettings s).map fun origins =>
    ⟨origins, s.corsMaxAge, s.effectiveTimeout aggregationDeadline⟩

/-- An answer that takes as long as the timeout allows gives way to a bare timeout: the sources are not
waited for any longer, and nothing is counted or kept of what they say. -/
def withTimeout (site : Site) (s : Service) (route : Route) (answer : Answer) : Answer :=
  let timeout := s.fitted site.timeout
  answer.map fun (r, after) =>
    if timeout.ceilMillis ≤ after.elapsed.millis - s.elapsed.millis then
      (.bare 408, { s.waitingOn route with elapsed := s.elapsed.plus timeout })
    else (r, after)

def answerOn (site : Site) (s : Service) (req : Request) (route : Option Route) : Answer :=
  if req.method = "OPTIONS" then
    let r := site.origins.preflight site.maxAge req
    .ok ((route.map r.withMethods).getD r, s)
  else
    let answer : Answer := match route with
      | none => .ok (.bare 404, s)
      | some route => site.withTimeout s route (answerCounted s req route)
    answer.map fun (r, s) => (site.origins.mark req r, s)

def answer (site : Site) (s : Service) (req : Request) : Answer :=
  (site.answerOn s req (Route.ofPath? req.path)).map fun (r, s) =>
    let r := r.withLength
    (if req.method = "HEAD" then r.withoutBody else r, s)

end Site
end Http
end Casebook
