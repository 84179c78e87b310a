import Casebook.Proofs.Cache.Slots
import Casebook.Proofs.Http.Availability

/-!
# Requests that leave timelines alone

Some requests never reach the timelines: those without a route or with a method that their route does not
know, questions about what requests may be, questions about the service itself, those that name no case
or ask for something that cannot be read, and those that ask for a case without its timeline. Such a
request is answered, and whatever the service knows of timelines is afterwards as it was.
-/

namespace Casebook

namespace Cache.Store

/-- How often a store had a value when asked, and how often it had none. -/
def asked : Store → Nat × Nat
  | .memory m => (m.hits, m.misses)
  | .mapped m => (m.hits, m.misses)
  | .unreachable _ => (0, 0)
  | .refusing _ m => (m.hits, m.misses)

/-- The values of a store are as they were, and so is how often it was asked for them. -/
structure Untouched (s after : Store) : Prop where
  entries : ∀ key, after.slot? key = s.slot? key
  asked : after.asked = s.asked

theorem Untouched.refl (s : Store) : s.Untouched s := ⟨fun _ => rfl, rfl⟩

theorem Untouched.trans {s t u : Store} (h : s.Untouched t) (h' : t.Untouched u) : s.Untouched u :=
  ⟨fun key => (h'.entries key).trans (h.entries key), h'.asked.trans h.asked⟩

theorem untouched_ping (s : Store) : s.Untouched s.ping.2 := by
  cases s <;> exact ⟨fun _ => rfl, rfl⟩

theorem untouched_stats (s : Store) : s.Untouched s.stats.2 := by
  cases s <;> exact ⟨fun _ => rfl, rfl⟩

end Cache.Store

namespace Service

/-- Nothing that has to do with timelines is changed, and no time has passed. -/
structure Untouched (s after : Service) : Prop where
  store : s.store.Untouched after.store
  clients : after.clients = s.clients
  cacheEvents : after.metrics.cacheEvents = s.metrics.cacheEvents
  outcomes : after.metrics.outcomes = s.metrics.outcomes
  failures : after.metrics.failures = s.metrics.failures
  collections : after.metrics.collections = s.metrics.collections
  elapsed : after.elapsed = s.elapsed

variable {s after : Service}

theorem Untouched.refl (s : Service) : s.Untouched s := ⟨.refl _, rfl, rfl, rfl, rfl, rfl, rfl⟩

/-- Asking after a store changes it only where it counts the calls that it fails. -/
theorem exists_cacheHealth (s : Service) :
    ∃ store, s.store.Untouched store ∧ s.cacheHealth.2 = { s with store } := by
  simp only [cacheHealth]
  cases s.store.ping.1 with
  | error f => exact ⟨_, s.store.untouched_ping, rfl⟩
  | ok there => exact ⟨_, s.store.untouched_ping.trans (Cache.Store.untouched_stats _), rfl⟩

theorem untouched_cacheHealth (s : Service) : s.Untouched s.cacheHealth.2 := by
  obtain ⟨store, untouched, same⟩ := s.exists_cacheHealth
  rw [same]
  exact ⟨untouched, rfl, rfl, rfl, rfl, rfl, rfl⟩

theorem Untouched.countRequest (h : s.Untouched after) (route : Metrics.RouteLabel) (status : Nat)
    (seconds : Decimal.Binary64) :
    s.Untouched { after with metrics := after.metrics.countRequest route status seconds } :=
  ⟨h.store, h.clients, h.cacheEvents, h.outcomes, h.failures, h.collections, h.elapsed⟩

theorem ceilMillis_fitted_pos {timeout : Span} (h : 0 < timeout.nanos) (s : Service) :
    0 < (s.fitted timeout).ceilMillis := by
  rw [fitted]
  split
  next =>
    rw [Span.ceilMillis]
    omega
  next => decide

end Service

namespace Http

/-- The part of the path of a route that names a case. -/
def Route.written? : Route → Option String
  | .caseView written => some written
  | .refresh written => some written
  | .timeline written => some written
  | _ => none

theorem Route.options_not_mem_methods (route : Route) : "OPTIONS" ∉ route.methods := by
  cases route <;> simp [methods]

/-- What is asked on a route that does not get to any timeline. -/
inductive Route.Spares (query : Option String) : Route → Prop where
  | probe {route : Route} (noCase : route.written? = none) : Spares query route
  | undecodable {route : Route} {written : String} (names : route.written? = some written)
      (undecodable : decodePart? written = none) : Spares query route
  | invalid {route : Route} {written raw : String} {f : CaseId.Fault}
      (names : route.written? = some written) (decoded : decodePart? written = some raw)
      (invalid : CaseId.parse raw = .error f) : Spares query route
  | unreadable {written : String} {f : QueryFault} (unreadable : readQuery query = .error f) :
      Spares query (.caseView written)
  | bare {written : String} (bare : readQuery query = .ok false) : Spares query (.caseView written)

/-- A request that does not get to any timeline. -/
inductive Request.Spares (req : Request) : Prop where
  | preflight (options : req.method = "OPTIONS")
  | unrouted (unrouted : Route.ofPath? req.path = none)
  | refused {route : Route} (path : Route.ofPath? req.path = some route)
      (refused : req.method ∉ route.methods)
  | routed {route : Route} (path : Route.ofPath? req.path = some route)
      (spares : route.Spares req.query)

/-- A request whose only fault is that it names a case by what is no case id. -/
structure Request.Misnames (req : Request) (f : CaseId.Fault) : Prop where
  path : ∃ route written raw, Route.ofPath? req.path = some route ∧ req.method ∈ route.methods ∧
    route.written? = some written ∧ decodePart? written = some raw ∧ CaseId.parse raw = .error f ∧
    ((∃ written, route = .caseView written) → ∃ asked, readQuery req.query = .ok asked)

/-! ### Answers on a route -/

section
variable {s : Service} {query : Option String} {route : Route} {written raw : String}
  {answer : CaseId → Answer}

theorem onCase_of_undecodable (undecodable : decodePart? written = none) :
    ∃ r, onCase s written answer = .ok (r, s) := by
  rw [onCase, undecodable]
  exact ⟨_, rfl⟩

theorem onCase_of_invalid {f : CaseId.Fault} (decoded : decodePart? written = some raw)
    (invalid : CaseId.parse raw = .error f) :
    onCase s written answer = .ok (.ofProblem (.ofInput f.toInput), s) := by
  have fault : CaseId.ofInput raw = .error f.toInput := by
    rw [CaseId.ofInput, invalid]
    rfl
  simp only [onCase, decoded, fault]

theorem onCase_of_kept (kept : ∀ c, ∃ r, answer c = .ok (r, s)) :
    ∃ r, onCase s written answer = .ok (r, s) := by
  rw [onCase]
  split
  next => exact ⟨_, rfl⟩
  next =>
    split
    next => exact ⟨_, rfl⟩
    next c _ => exact kept c

/-- The name of a case is read before anything is done about it, and a query that cannot be read comes
even before that. -/
theorem answerRoute_of_written (s : Service) (query : Option String)
    (names : route.written? = some written) :
    (∃ answer, answerRoute s query route = onCase s written answer) ∨
      (∃ f, readQuery query = .error f) ∧ (∃ written, route = .caseView written) ∧
        ∃ r, answerRoute s query route = .ok (r, s) := by
  cases route with
  | caseView =>
    cases names
    simp only [answerRoute, answerCase]
    split
    next f _ unreadable => exact .inr ⟨⟨f, unreadable⟩, ⟨written, rfl⟩, _, rfl⟩
    next => exact .inl ⟨_, rfl⟩
  | refresh | timeline =>
    cases names
    exact .inl ⟨_, rfl⟩
  | live | ready | metrics | description => cases names

theorem answerCase_of_unreadable {f : QueryFault} (unreadable : readQuery query = .error f) :
    ∃ r, answerCase s query written = .ok (r, s) := by
  cases decoded : decodePart? written with
  | none =>
    simp only [answerCase, decoded]
    exact onCase_of_undecodable decoded
  | some raw =>
    simp only [answerCase, decoded, unreadable]
    exact ⟨_, rfl⟩

theorem answerCase_of_bare (bare : readQuery query = .ok false) :
    ∃ r, answerCase s query written = .ok (r, s) := by
  have noTimeline : ∃ r, onCase s written (fun c => .ok (.ofJson 200 (CaseView.toJson ⟨c, none⟩), s)) =
      .ok (r, s) := onCase_of_kept fun _ => ⟨_, rfl⟩
  simp only [answerCase, bare]
  cases decodePart? written <;> exact noTimeline

theorem answerRoute_of_spares (spares : route.Spares query) :
    ∃ r after, answerRoute s query route = .ok (r, after) ∧ s.Untouched after := by
  have kept : (∃ r, answerRoute s query route = .ok (r, s)) →
      ∃ r after, answerRoute s query route = .ok (r, after) ∧ s.Untouched after :=
    fun ⟨r, given⟩ => ⟨r, s, given, .refl s⟩
  cases spares with
  | probe noCase =>
    cases route with
    | caseView | refresh | timeline => cases noCase
    | ready => exact ⟨_, _, rfl, s.untouched_cacheHealth⟩
    | live | metrics | description => exact kept ⟨_, rfl⟩
  | undecodable names undecodable =>
    rcases answerRoute_of_written s query names with ⟨_, same⟩ | ⟨-, -, given⟩
    · rw [same] at kept ⊢
      exact kept (onCase_of_undecodable undecodable)
    · exact kept given
  | invalid names decoded invalid =>
    rcases answerRoute_of_written s query names with ⟨_, same⟩ | ⟨-, -, given⟩
    · rw [same] at kept ⊢
      exact kept ⟨_, onCase_of_invalid decoded invalid⟩
    · exact kept given
  | unreadable unreadable => exact kept (answerCase_of_unreadable unreadable)
  | bare bare => exact kept (answerCase_of_bare bare)

end

/-! ### Answers of a site -/

section
variable {site : Site} {s after : Service} {req : Request} {route : Route} {r : Response}

theorem answer_of_options (site : Site) (s : Service) (options : req.method = "OPTIONS") :
    ∃ r, site.answer s req = .ok (r, s) := by
  simp only [Site.answer, Site.answerOn, if_pos options]
  exact ⟨_, rfl⟩

theorem answer_of_unrouted (site : Site) (s : Service) (asks : req.method ≠ "OPTIONS")
    (unrouted : Route.ofPath? req.path = none) : ∃ r, site.answer s req = .ok (r, s) := by
  rw [Site.answer, unrouted, Site.answerOn, if_neg asks]
  exact ⟨_, rfl⟩

theorem answerCounted_of_workOn (given : workOn s req route = .ok (r, after)) :
    ∃ seconds, answerCounted s req route = .ok (r, { after with
      metrics := after.metrics.countRequest ⟨req.method, route.template⟩ r.status seconds }) := by
  rw [answerCounted, given]
  exact ⟨_, rfl⟩

/-- An answer that takes no time is given, whatever time a request has. -/
theorem answer_of_counted (path : Route.ofPath? req.path = some route) (asks : req.method ≠ "OPTIONS")
    (counted : answerCounted s req route = .ok (r, after)) (still : after.elapsed = s.elapsed)
    (timed : 0 < site.timeout.nanos) : ∃ r', site.answer s req = .ok (r', after) ∧
      r'.status = r.status ∧ (req.method ≠ "HEAD" → r'.body = r.body) := by
  have within : ¬(s.fitted site.timeout).ceilMillis ≤ after.elapsed.millis - s.elapsed.millis := by
    rw [still, Nat.sub_self]
    exact Nat.not_le_of_gt (s.ceilMillis_fitted_pos timed)
  obtain ⟨headers, marked⟩ := site.origins.mark_eq req r
  rw [Site.answer, path, Site.answerOn, if_neg asks]
  simp only [counted, Site.withTimeout, Except.map, if_neg within]
  refine ⟨_, rfl, ?_, fun plain => ?_⟩
  · split <;> rw [marked] <;> rfl
  · rw [if_neg plain, marked]
    rfl

theorem timeout_pos {api : ApiSettings} {aggregationDeadline : Span}
    (built : Site.ofSettings api aggregationDeadline = .ok site) : 0 < site.timeout.nanos := by
  have margin : 0 < (aggregationDeadline.plus ApiSettings.timeoutMargin).nanos := by
    have room : 0 < Span.longest.nanos := by decide
    show 0 < min (_ + 1000000000) _
    omega
  rw [Site.timeout_of_ofSettings built, ApiSettings.effectiveTimeout, Span.longer]
  split
  next => exact margin
  next longer => exact Nat.lt_of_le_of_lt (Nat.zero_le _) (Nat.lt_of_not_le longer)

theorem workOn_of_spares (s : Service)
    (spares : req.method ∉ route.methods ∨ route.Spares req.query) :
    ∃ r after, workOn s req route = .ok (r, after) ∧ s.Untouched after := by
  rw [workOn]
  by_cases allowed : req.method ∈ route.methods
  · rw [if_pos allowed]
    exact answerRoute_of_spares (spares.resolve_left fun refused => refused allowed)
  · rw [if_neg allowed]
    exact ⟨_, s, rfl, .refl s⟩

/-- What a request that spares the timelines is answered. -/
theorem answer_of_sparing (timed : 0 < site.timeout.nanos) (path : Route.ofPath? req.path = some route)
    (asks : req.method ≠ "OPTIONS") (given : workOn s req route = .ok (r, after))
    (untouched : s.Untouched after) : ∃ r' after', site.answer s req = .ok (r', after') ∧
      s.Untouched after' ∧ r'.status = r.status ∧ (req.method ≠ "HEAD" → r'.body = r.body) := by
  obtain ⟨seconds, counted⟩ := answerCounted_of_workOn given
  obtain ⟨r', answered, same⟩ := answer_of_counted path asks counted untouched.elapsed timed
  exact ⟨r', _, answered, untouched.countRequest _ _ _, same⟩

/-- A request that spares the timelines is answered, and one that misnames a case is told so. -/
structure Site.LeavesAlone (site : Site) (s : Service) (req : Request) : Prop where
  untouched : req.Spares → ∃ r after, site.answer s req = .ok (r, after) ∧ s.Untouched after
  told : ∀ f, req.Misnames f → ∃ r after, site.answer s req = .ok (r, after) ∧ s.Untouched after ∧
    r.status = 400 ∧ (req.method ≠ "HEAD" → r.body = (Problem.ofInput f.toInput).toJson.text)

theorem untouched_of_spares (timed : 0 < site.timeout.nanos) (spares : req.Spares) :
    ∃ r after, site.answer s req = .ok (r, after) ∧ s.Untouched after := by
  by_cases options : req.method = "OPTIONS"
  · obtain ⟨r, answered⟩ := answer_of_options site s options
    exact ⟨r, s, answered, .refl s⟩
  cases spares with
  | preflight asks => exact absurd asks options
  | unrouted unrouted =>
    obtain ⟨r, answered⟩ := answer_of_unrouted site s options unrouted
    exact ⟨r, s, answered, .refl s⟩
  | refused path refused =>
    obtain ⟨r, after, given, untouched⟩ := workOn_of_spares s (.inl refused)
    obtain ⟨r', after', answered, untouched', -⟩ := answer_of_sparing timed path options given untouched
    exact ⟨r', after', answered, untouched'⟩
  | routed path spares =>
    obtain ⟨r, after, given, untouched⟩ := workOn_of_spares s (.inr spares)
    obtain ⟨r', after', answered, untouched', -⟩ := answer_of_sparing timed path options given untouched
    exact ⟨r', after', answered, untouched'⟩

theorem told_of_misnames {f : CaseId.Fault} (timed : 0 < site.timeout.nanos) (misnames : req.Misnames f) :
    ∃ r after, site.answer s req = .ok (r, after) ∧ s.Untouched after ∧ r.status = 400 ∧
      (req.method ≠ "HEAD" → r.body = (Problem.ofInput f.toInput).toJson.text) := by
  obtain ⟨route, written, raw, path, allowed, names, decoded, invalid, readable⟩ := misnames.path
  have options : req.method ≠ "OPTIONS" := by
    intro options
    rw [options] at allowed
    exact route.options_not_mem_methods allowed
  have given : workOn s req route = .ok (.ofProblem (.ofInput f.toInput), s) := by
    rw [workOn, if_pos allowed]
    rcases answerRoute_of_written s req.query names with ⟨_, same⟩ | ⟨⟨_, unreadable⟩, isView, -⟩
    · rw [same]
      exact onCase_of_invalid decoded invalid
    · obtain ⟨asked, read⟩ := readable isView
      cases read.symm.trans unreadable
  obtain ⟨r', after', answered, untouched, status, body⟩ :=
    answer_of_sparing timed path options given (.refl s)
  refine ⟨r', after', answered, untouched, status.trans ?_, body⟩
  cases f <;> rfl

theorem leavesAlone_of_built {api : ApiSettings}
    (built : Site.ofSettings api s.settings.aggregationDeadline = .ok site) (req : Request) :
    site.LeavesAlone s req where
  untouched := untouched_of_spares (timeout_pos built)
  told _ := told_of_misnames (timeout_pos built)

end

def misnaming : Request := ⟨"POST", "/support/cases/a%20b/timeline/refresh", none, []⟩

/-- A space in a name is told, and asking whether the service is ready leaves a store alone that fails. -/
theorem leavesAlone_stranded :
    Site.ofSettings .default (stranded (.ofSeconds 2)).settings.aggregationDeadline = .ok openSite ∧
    misnaming.Misnames (.badCharacter ' ') ∧
    (∃ r after, openSite.answer (stranded (.ofSeconds 2)) misnaming = .ok (r, after) ∧
      (stranded (.ofSeconds 2)).Untouched after ∧ r.status = 400 ∧ r.body =
        (Problem.ofInput (CaseId.Fault.badCharacter ' ').toInput).toJson.text) ∧
    ∃ r after, openSite.answer (stranded (.ofSeconds 2)) ⟨"GET", "/health/ready", none, []⟩ =
      .ok (r, after) ∧ (stranded (.ofSeconds 2)).Untouched after := by
  have built : Site.ofSettings .default (stranded (.ofSeconds 2)).settings.aggregationDeadline =
    .ok openSite := rfl
  have misnames : misnaming.Misnames (.badCharacter ' ') :=
    ⟨.refresh "a%20b", "a%20b", "a b", by decide +kernel, by decide, rfl, by decide +kernel,
      by decide +kernel, fun ⟨_, h⟩ => (nomatch h)⟩
  have ready : Route.ofPath? "/health/ready" = some .ready := by decide +kernel
  obtain ⟨r, after, answered, untouched, status, body⟩ :=
    (leavesAlone_of_built built misnaming).told _ misnames
  exact ⟨built, misnames, ⟨r, after, answered, untouched, status, body (by decide)⟩,
    (leavesAlone_of_built built _).untouched (.routed ready (.probe rfl))⟩

end Http
end Casebook
