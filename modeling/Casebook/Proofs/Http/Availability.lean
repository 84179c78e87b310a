import Casebook.Http.Site
import Casebook.Proofs.Http.Paths
import Casebook.Proofs.Service.Waiting

/-!
# Availability of the site

Requests for the timeline of a case are answered with it, whatever the sources do and whichever calls of
the store fail, and before the request runs out of time: the timeout leaves a margin beyond all that
collecting may take. Faults of the cache fail one kind of request only, those that drop a timeline, and
these are not told the reason.
-/

namespace Casebook

open Cache (Store)

/-! ### Faults of deleting -/

theorem Cache.Mapped.delete_eq_error {m : Mapped} {key : String} {f : CacheFault}
    (h : (m.delete key).1 = .error f) : f = noRoom := by
  rw [delete] at h
  split at h
  next => cases h
  next =>
    split at h
    next => cases h
    next =>
      cases h
      rfl

/-- A store that cannot delete is unavailable, whatever the reason. -/
theorem Cache.Store.unavailable_of_delete {s : Store} {key : String} {f : CacheFault}
    (h : (s.delete key).1 = .error f) : ∃ name outage, f = .unavailable name outage := by
  cases s with
  | memory m => cases h
  | mapped m => exact ⟨_, _, Mapped.delete_eq_error h⟩
  | unreachable n =>
    cases h
    exact ⟨_, _, rfl⟩
  | refusing r m =>
    rw [delete] at h
    split at h
    next =>
      cases h
      exact ⟨_, _, rfl⟩
    next => cases h

namespace Http

/-! ### Requests about a case -/

/-- A request whose path is a route for a case. -/
structure Request.IsFor (req : Request) (method : String) (route : String → Route) (c : CaseId) :
    Prop where
  method : req.method = method
  path : ∃ written raw, Route.ofPath? req.path = some (route written) ∧
    decodePart? written = some raw ∧ CaseId.ofInput raw = .ok c

/-- A request for a case with its timeline. -/
structure Request.AsksView (req : Request) (c : CaseId) : Prop where
  isFor : req.IsFor "GET" .caseView c
  query : readQuery req.query = .ok true

theorem asksView (c : CaseId) (headers : List (String × Bytes)) :
    Request.AsksView ⟨"GET", "/support/cases/" ++ c.text, some "includeTimeline=true", headers⟩ c where
  isFor := ⟨rfl, c.text, c.text, ofPath?_caseView c, decodePart?_text c, ofInput_text c⟩
  query := by
    show readQuery (some "includeTimeline=true") = .ok true
    decide +kernel

theorem isFor_refresh (c : CaseId) (query : Option String) (headers : List (String × Bytes)) :
    Request.IsFor ⟨"POST", "/support/cases/" ++ c.text ++ "/timeline/refresh", query, headers⟩
      "POST" .refresh c :=
  ⟨rfl, c.text, c.text, ofPath?_refresh c, decodePart?_text c, ofInput_text c⟩

theorem isFor_timeline (c : CaseId) (query : Option String) (headers : List (String × Bytes)) :
    Request.IsFor ⟨"DELETE", "/support/cases/" ++ c.text ++ "/timeline", query, headers⟩
      "DELETE" .timeline c :=
  ⟨rfl, c.text, c.text, ofPath?_timeline c, decodePart?_text c, ofInput_text c⟩

/-! ### Answers that keep within the timeout -/

section
variable {site : Site} {s after : Service} {req : Request} {c : CaseId}

theorem Origins.mark_eq (o : Origins) (req : Request) (r : Response) :
    ∃ headers, o.mark req r = { r with headers } := by
  rw [mark]
  split
  next => exact ⟨_, rfl⟩
  next => exact ⟨_, rfl⟩

theorem Origins.mark_status (o : Origins) (req : Request) (r : Response) :
    (o.mark req r).status = r.status := by
  obtain ⟨headers, marked⟩ := o.mark_eq req r
  rw [marked]

/-- A request is answered with a status and a body after some milliseconds. -/
def Site.AnswersAfter (site : Site) (s : Service) (req : Request) (n status : Nat) (body : String) :
    Prop :=
  ∃ r s', site.answer s req = .ok (r, s') ∧ r.status = status ∧ r.body = body ∧
    s'.elapsed.nanos = s.elapsed.nanos + n * 1000000

theorem answerCounted_of_route {route : Route} {r : Response} (allowed : req.method ∈ route.methods)
    (given : answerRoute s req.query route = .ok (r, after)) : ∃ metrics,
      answerCounted s req route = .ok (r, { after with metrics }) := by
  rw [answerCounted, workOn, if_pos allowed, given]
  exact ⟨_, rfl⟩

theorem answersAfter_of_route {route : Route} {r : Response} {n : Nat}
    (path : Route.ofPath? req.path = some route) (allowed : req.method ∈ route.methods)
    (plain : req.method ≠ "OPTIONS" ∧ req.method ≠ "HEAD")
    (given : answerRoute s req.query route = .ok (r, after))
    (waited : after.elapsed.nanos = s.elapsed.nanos + n * 1000000)
    (early : n * 1000000 < (s.fitted site.timeout).nanos) :
    site.AnswersAfter s req n r.status r.body := by
  obtain ⟨metrics, counted⟩ := answerCounted_of_route allowed given
  have within : ¬(s.fitted site.timeout).ceilMillis ≤ after.elapsed.millis - s.elapsed.millis := by
    rw [Span.ceilMillis, Span.millis, Span.millis, waited]
    omega
  obtain ⟨headers, marked⟩ := site.origins.mark_eq req r
  refine ⟨(site.origins.mark req r).withLength, { after with metrics }, ?_, ?_, ?_, waited⟩
  · rw [Site.answer, path, Site.answerOn, if_neg plain.1]
    simp only [counted, Site.withTimeout, Except.map, if_neg within, if_neg plain.2]
  · rw [marked]
    rfl
  · rw [marked]
    rfl

end

/-! ### Time for an answer -/

/-- A site over the settings of a service, at a time from which the clock of the machine shows the
deadlines of a collection and the timeout of a request. -/
structure Site.Serves (site : Site) (api : ApiSettings) (s : Service) : Prop where
  built : Site.ofSettings api s.settings.aggregationDeadline = .ok site
  collecting : s.showsDeadlines = true
  answering : s.reaches site.timeout = true

section
variable {site : Site} {api : ApiSettings} {s : Service}

theorem Site.timeout_of_ofSettings {aggregationDeadline : Span}
    (built : ofSettings api aggregationDeadline = .ok site) :
    site.timeout = api.effectiveTimeout aggregationDeadline := by
  rw [ofSettings] at built
  cases ho : Origins.ofSettings api with
  | error b =>
    rw [ho] at built
    cases built
  | ok origins =>
    rw [ho] at built
    cases built
    rfl

theorem Site.Serves.timeout_eq (h : site.Serves api s) :
    site.timeout = api.effectiveTimeout s.settings.aggregationDeadline :=
  timeout_of_ofSettings h.built

/-- The timeout is longer than all that a collection may wait. -/
theorem Site.Serves.lt_timeout (h : site.Serves api s) {n : Nat}
    (most : n ≤ (s.settings.perSourceTimeout.shorter s.settings.aggregationDeadline).ceilMillis) :
    n * 1000000 < site.timeout.nanos := by
  have whole : n ≤ s.settings.aggregationDeadline.ceilMillis :=
    Nat.le_trans most (Span.ceilMillis_le (Span.shorter_le_right _ _))
  have started := s.settings.aggregationDeadline.ceilMillis_mul_lt
  have shown := h.collecting
  simp only [Service.showsDeadlines, Service.reaches, Bool.and_eq_true, decide_eq_true_eq] at shown
  have room : Cache.Clock.limit + 1000000000 ≤ Span.longest.nanos := by decide
  have sum : (s.settings.aggregationDeadline.plus ApiSettings.timeoutMargin).nanos =
      s.settings.aggregationDeadline.nanos + 1000000000 := by
    show min (_ + 1000000000) _ = _
    omega
  have raised : (s.settings.aggregationDeadline.plus ApiSettings.timeoutMargin).nanos ≤
      site.timeout.nanos := by
    rw [h.timeout_eq, ApiSettings.effectiveTimeout, Span.longer]
    split
    next => exact Nat.le_refl _
    next longer => exact Nat.le_of_lt (Nat.lt_of_not_le longer)
  -- The wait rounds up by less than a millisecond, and the margin is a second.
  calc n * 1000000
    _ ≤ s.settings.aggregationDeadline.ceilMillis * 1000000 := Nat.mul_le_mul_right _ whole
    _ < s.settings.aggregationDeadline.nanos + 1000000 := started
    _ ≤ s.settings.aggregationDeadline.nanos + 1000000000 := Nat.add_le_add_left (by decide) _
    _ = (s.settings.aggregationDeadline.plus ApiSettings.timeoutMargin).nanos := sum.symm
    _ ≤ site.timeout.nanos := raised

theorem Site.Serves.lt_fitted (h : site.Serves api s) {after : Service} {n : Nat}
    (waits : s.Waits after n) : n * 1000000 < (s.fitted site.timeout).nanos := by
  rw [Service.fitted, if_pos h.answering]
  exact h.lt_timeout waits.most

/-! ### The three requests -/

variable {after : Service} {req : Request} {c : CaseId} {t : Timeline} {n : Nat}

/-- Work on the route of a request answers the request, if it waits no longer than a collection does. -/
theorem answersAfter_of_isFor {method : String} {route : String → Route} {r : Response}
    (h : site.Serves api s) (asks : req.IsFor method route c)
    (allowed : ∀ written, method ∈ (route written).methods)
    (plain : method ≠ "OPTIONS" ∧ method ≠ "HEAD")
    (given : ∀ written raw, decodePart? written = some raw → CaseId.ofInput raw = .ok c →
      answerRoute s req.query (route written) = .ok (r, after))
    (waits : s.Waits after n) : site.AnswersAfter s req n r.status r.body := by
  obtain ⟨rfl, written, raw, path, decoded, valid⟩ := asks
  exact answersAfter_of_route path (allowed written) plain (given written raw decoded valid)
    waits.elapsed (h.lt_fitted waits)

theorem answersAfter_view (h : site.Serves api s) (asks : req.AsksView c)
    (given : s.get false c = .ok (t, after)) (waits : s.Waits after n) :
    site.AnswersAfter s req n 200 (CaseView.toJson ⟨c, some t⟩).text := by
  refine answersAfter_of_isFor (r := .ofJson 200 (CaseView.toJson ⟨c, some t⟩)) h asks.isFor
    (fun _ => List.mem_cons_self) (by decide) ?_ waits
  intro written raw decoded valid
  show answerCase s req.query written = _
  simp only [answerCase, onCase, decoded, asks.query, valid]
  show (s.get false c).map _ = _
  rw [given]
  rfl

theorem answersAfter_refresh (h : site.Serves api s) (asks : req.IsFor "POST" .refresh c)
    (given : s.refresh c = .ok (t, after)) (waits : s.Waits after n) :
    site.AnswersAfter s req n 200 t.toJson.text := by
  refine answersAfter_of_isFor (r := .ofJson 200 t.toJson) h asks (fun _ => List.mem_cons_self)
    (by decide) ?_ waits
  intro written raw decoded valid
  show answerRefresh s written = _
  simp only [answerRefresh, onCase, decoded, valid, given]
  rfl

def dropResponse : Except CacheFault Bool → Response
  | .ok _ => .bare 204
  | .error f => .ofProblem (.ofCache f)

theorem answersAfter_drop (h : site.Serves api s) (asks : req.IsFor "DELETE" .timeline c) :
    site.AnswersAfter s req 0 (dropResponse (s.store.drop c).1).status
      (dropResponse (s.store.drop c).1).body := by
  have waits : s.Waits (s.invalidate c).2 0 := Service.waits_none rfl
  refine answersAfter_of_isFor h asks (fun _ => List.mem_cons_self) (by decide) ?_ waits
  intro written raw decoded valid
  show answerDrop s written = _
  simp only [answerDrop, onCase, decoded, valid, Service.invalidate]
  cases (s.store.drop c).1 <;> rfl

end

/-! ### Answers that do not say that the site failed -/

/-- What holds of the response in an answer, if there is one. -/
def Gives (P : Response → Prop) (a : Answer) : Prop := ∀ r s, a = .ok (r, s) → P r

section
variable {s : Service} {P : Response → Prop}

theorem gives_ok {r : Response} (h : P r) : Gives P (.ok (r, s)) := by
  intro r' s' given
  cases given
  exact h

theorem gives_map {α : Type} {e : Except Breakdown α} {f : α → Response × Service}
    (h : ∀ x, e = .ok x → P (f x).1) : Gives P (e.map f) := by
  cases e with
  | error b =>
    intro r s given
    cases given
  | ok x => exact gives_ok (h x rfl)

theorem gives_onCase {written : String} {answer : CaseId → Answer}
    (unread : ∀ message, P (.ofMessage 400 message))
    (refused : ∀ f, P (.ofProblem (.ofInput f))) (h : ∀ c, Gives P (answer c)) :
    Gives P (onCase s written answer) := by
  rw [onCase]
  split
  next => exact gives_ok (unread _)
  next =>
    split
    next f _ => exact gives_ok (refused f)
    next c _ => exact h c

theorem gives_withTimeout (site : Site) (route : Route) {a : Answer} (late : P (.bare 408))
    (h : Gives P a) : Gives P (site.withTimeout s route a) := by
  intro r after given
  rcases a with b | ⟨r', after'⟩
  · cases given
  · simp only [Site.withTimeout, Except.map] at given
    split at given
    next =>
      cases given
      exact late
    next => exact h r after given

end

/-- An answer whose status, if there is one, does not say that the site failed. -/
abbrev Blameless (a : Answer) : Prop := Gives (fun r => r.status < 500) a

section
variable {s : Service}

theorem blameless_onCase {written : String} {answer : CaseId → Answer}
    (h : ∀ c, Blameless (answer c)) : Blameless (onCase s written answer) := by
  have refused : 400 < 500 := by decide
  refine gives_onCase (fun _ => refused) (fun f => ?_) h
  cases f <;> exact refused

theorem blameless_answerCase (s : Service) (query : Option String) (written : String) :
    Blameless (answerCase s query written) := by
  have fine : 200 < 500 := by decide
  rw [answerCase]
  split
  next => exact gives_ok (show 400 < 500 by decide)
  next =>
    refine blameless_onCase fun c => ?_
    split
    next => exact gives_map fun _ _ => fine
    next => exact gives_ok fine

theorem blameless_answerRoute (s : Service) (query : Option String) {route : Route}
    (h : ∀ written, route ≠ .timeline written) : Blameless (answerRoute s query route) := by
  have fine : 200 < 500 := by decide
  cases route with
  | caseView written => exact blameless_answerCase s query written
  | refresh written => exact blameless_onCase fun c => gives_map fun _ _ => fine
  | timeline written => exact absurd rfl (h written)
  | live => exact gives_ok fine
  | ready => exact gives_ok fine
  | metrics => exact gives_ok fine
  | description => exact gives_ok fine

theorem blameless_answerCounted {req : Request} {route : Route}
    (h : req.method ∈ route.methods → ∀ written, route ≠ .timeline written) :
    Blameless (answerCounted s req route) := by
  refine gives_map fun x hx => ?_
  rw [workOn] at hx
  split at hx
  next allowed => exact blameless_answerRoute s req.query (h allowed) _ _ hx
  next =>
    cases hx
    exact show 405 < 500 by decide

theorem blameless_answerOn (site : Site) {req : Request} {route : Option Route}
    (h : ∀ r, route = some r → req.method ∈ r.methods → ∀ written, r ≠ .timeline written) :
    Blameless (site.answerOn s req route) := by
  simp only [Site.answerOn]
  split
  next =>
    have fine : (site.origins.preflight site.maxAge req).status < 500 := by
      show (site.origins.mark req (.bare 200)).status < 500
      rw [Origins.mark_status]
      exact show 200 < 500 by decide
    cases route <;> exact gives_ok fine
  next =>
    refine gives_map fun x hx => ?_
    rw [Origins.mark_status]
    cases route with
    | none =>
      cases hx
      exact show 404 < 500 by decide
    | some r =>
      exact gives_withTimeout site r (show 408 < 500 by decide) (blameless_answerCounted (h r rfl)) _ _ hx

/-- Only who drops a timeline is told that the site failed. -/
theorem drops_of_failed {site : Site} {req : Request} {r : Response} {after : Service}
    (given : site.answer s req = .ok (r, after)) (failed : 500 ≤ r.status) :
    req.method = "DELETE" ∧ ∃ written, Route.ofPath? req.path = some (.timeline written) := by
  by_contra other
  have kept : Blameless (site.answer s req) := by
    have onRoute : Blameless (site.answerOn s req (Route.ofPath? req.path)) := by
      refine blameless_answerOn site fun r path allowed written drops => other ?_
      subst drops
      exact ⟨List.mem_singleton.1 allowed, written, path⟩
    refine gives_map fun x hx => ?_
    have status := onRoute _ _ hx
    show (if req.method = "HEAD" then _ else _ : Response).status < 500
    split <;> exact status
  exact absurd failed (Nat.not_le.2 (kept _ _ given))

end

/-! ### All requests -/

def unavailableBody : String :=
  (Problem.plain .serviceUnavailable "Timeline cache is unavailable").toJson.text

theorem dropResponse_of_error {s : Store} {c : CaseId} {f : CacheFault}
    (undropped : (s.drop c).1 = .error f) :
    (dropResponse (s.drop c).1).status = 503 ∧ (dropResponse (s.drop c).1).body = unavailableBody := by
  obtain ⟨name, outage, rfl⟩ := Store.unavailable_of_delete undropped
  rw [undropped]
  exact ⟨rfl, rfl⟩

/-- A number of milliseconds that is no more than each source has, and less than a request has. -/
def Site.InTime (site : Site) (s : Service) (n : Nat) : Prop :=
  n ≤ (s.settings.perSourceTimeout.shorter s.settings.aggregationDeadline).ceilMillis ∧
    n * 1000000 < site.timeout.nanos

/-- Whoever asks for a timeline is answered with it and in time; only whoever drops one may be told that
the cache is unavailable, and not why. -/
structure Site.FailsOpen (site : Site) (s : Service) : Prop where
  view : ∀ req c, Request.AsksView req c → ∃ t after n, s.get false c = .ok (t, after) ∧
    site.AnswersAfter s req n 200 (CaseView.toJson ⟨c, some t⟩).text ∧ site.InTime s n
  refresh : ∀ req c, Request.IsFor req "POST" .refresh c → ∃ t after n,
    s.refresh c = .ok (t, after) ∧ site.AnswersAfter s req n 200 t.toJson.text ∧ site.InTime s n
  dropped : ∀ req c existed, Request.IsFor req "DELETE" .timeline c →
    (s.store.drop c).1 = .ok existed → site.AnswersAfter s req 0 204 ""
  unavailable : ∀ req c f, Request.IsFor req "DELETE" .timeline c →
    (s.store.drop c).1 = .error f → site.AnswersAfter s req 0 503 unavailableBody
  only : ∀ req r after, site.answer s req = .ok (r, after) → 500 ≤ r.status →
    req.method = "DELETE" ∧ ∃ written, Route.ofPath? req.path = some (.timeline written)

theorem Site.Serves.inTime {site : Site} {api : ApiSettings} {s after : Service} {n : Nat}
    (h : site.Serves api s) (waits : s.Waits after n) : site.InTime s n :=
  ⟨waits.most, h.lt_timeout waits.most⟩

theorem failsOpen_of_serves {site : Site} {api : ApiSettings} {s : Service}
    (serves : site.Serves api s) : site.FailsOpen s where
  view := by
    intro req c asks
    obtain ⟨t, after, n, given, waits⟩ := Service.get_waits serves.collecting c
    exact ⟨t, after, n, given, answersAfter_view serves asks given waits,
      serves.inTime waits⟩
  refresh := by
    intro req c asks
    obtain ⟨t, after, n, given, waits⟩ := Service.refresh_waits serves.collecting c
    exact ⟨t, after, n, given, answersAfter_refresh serves asks given waits,
      serves.inTime waits⟩
  dropped := by
    intro req c existed asks gone
    have answers := answersAfter_drop serves asks
    rw [gone] at answers
    exact answers
  unavailable := by
    intro req c f asks undropped
    have answers := answersAfter_drop serves asks
    rw [(dropResponse_of_error undropped).1, (dropResponse_of_error undropped).2] at answers
    exact answers
  only := fun _ _ _ given failed => drops_of_failed given failed

/-- A service that cannot reach its cache and waits for a source in vain. -/
def stranded (perSource : Span) : Service :=
  .new { TimelineSettings.default with perSourceTimeout := perSource }
    [.new .order .hangs, .new .payment .breaks] (.unreachable 0) ⟨.zero, 0⟩ .latest

def openSite : Site := ⟨.any, 86400, .ofSeconds 10⟩

theorem failsOpen_stranded : openSite.Serves .default (stranded (.ofSeconds 2)) ∧
    openSite.FailsOpen (stranded (.ofSeconds 2)) ∧
    (∃ n body, openSite.AnswersAfter (stranded (.ofSeconds 2))
      ⟨"GET", "/support/cases/" ++ someCase.text, some "includeTimeline=true", []⟩ n 200 body) ∧
    (∃ n body, openSite.AnswersAfter (stranded (.ofSeconds 2))
      ⟨"POST", "/support/cases/" ++ someCase.text ++ "/timeline/refresh", none, []⟩ n 200 body) ∧
    openSite.AnswersAfter (stranded (.ofSeconds 2))
      ⟨"DELETE", "/support/cases/" ++ someCase.text ++ "/timeline", none, []⟩ 0 503
      unavailableBody := by
  have serves : openSite.Serves .default (stranded (.ofSeconds 2)) := ⟨rfl, by decide, by decide⟩
  have failsOpen := failsOpen_of_serves serves
  obtain ⟨_, _, viewing, -, viewed, -⟩ := failsOpen.view _ _ (asksView someCase [])
  obtain ⟨_, _, refreshing, -, refreshed, -⟩ :=
    failsOpen.refresh _ _ (isFor_refresh someCase none [])
  have undropped : ((stranded (.ofSeconds 2)).store.drop someCase).1 = .error Store.unreachableFault :=
    rfl
  exact ⟨serves, failsOpen, ⟨viewing, _, viewed⟩, ⟨refreshing, _, refreshed⟩,
    failsOpen.unavailable _ _ _ (isFor_timeline someCase none []) undropped⟩

/-- Answers may come later than sources have time, by less than a millisecond: timers count a started
millisecond whole. -/
theorem late_stranded :
    ¬∀ (site : Site) (api : ApiSettings) (s : Service) (req : Request) (c : CaseId),
      site.Serves api s → req.AsksView c → ∃ r s', site.answer s req = .ok (r, s') ∧
        s'.elapsed.nanos ≤ s.elapsed.nanos +
          (s.settings.perSourceTimeout.shorter s.settings.aggregationDeadline).nanos := by
  intro all
  have serves : openSite.Serves .default (stranded ⟨1500000⟩) := ⟨rfl, by decide, by decide⟩
  obtain ⟨r, s', answered, early⟩ := all _ _ _ _ _ serves (asksView someCase [])
  have shown : ((stranded ⟨1500000⟩).look someCase).2.showsDeadlines = true := by decide
  have missed : (stranded ⟨1500000⟩).lookAct someCase =
      .missed someCase (.error Store.unreachableFault) := rfl
  have given := (stranded ⟨1500000⟩).get_of_missed someCase missed
  rw [Service.renew_eq, if_pos shown] at given
  have waits : (stranded ⟨1500000⟩).Waits (((stranded ⟨1500000⟩).look someCase).2.renewed someCase) 2 :=
    (Service.waits_renewed shown someCase).congr rfl rfl
  obtain ⟨r', s'', answered', -, -, elapsed⟩ :=
    answersAfter_view serves (asksView someCase []) given waits
  rw [answered] at answered'
  cases answered'
  rw [elapsed] at early
  exact absurd early (by decide)

end Http
end Casebook
