import Casebook.Proofs.Http.Sparing
import Casebook.Proofs.Metrics.Counting

/-!
# Counted requests

Requests are counted under the template of their route and never under their path. Over any run of
requests, whatever happens around the service meanwhile, the numbers of requests on a route and of
observed times are the number of requests for which what works on that route was done in time. Questions
about what requests may be, requests without a route, and those that run out of time are not counted.
-/

namespace Casebook

open Metrics (RequestLabel RouteLabel Samples Tally)

/-! ### Sums over statuses -/

namespace Metrics

/-- How many requests were counted on a route, under all statuses. -/
def requestTotal (m : Metrics) (label : RouteLabel) : Nat :=
  ((m.requests.entries.filter fun e => e.1.route = label).map (·.2)).sum

/-- What is counted about requests is as it was. -/
structure SameRequests (m m' : Metrics) : Prop where
  requests : m'.requests = m.requests
  durations : m'.durations = m.durations

theorem SameRequests.refl (m : Metrics) : m.SameRequests m := ⟨rfl, rfl⟩

theorem SameRequests.trans {m m' m'' : Metrics} (h : m.SameRequests m') (h' : m'.SameRequests m'') :
    m.SameRequests m'' :=
  ⟨h'.requests.trans h.requests, h'.durations.trans h.durations⟩

theorem sum_alter_succ (l : List (RequestLabel × Nat)) (k : RequestLabel) (label : RouteLabel) :
    (((Labelled.alter 0 (· + 1) k l).filter fun e => e.1.route = label).map (·.2)).sum =
      ((l.filter fun e => e.1.route = label).map (·.2)).sum + if label = k.route then 1 else 0 := by
  induction l with
  | nil =>
    rw [Labelled.alter, List.filter_cons]
    by_cases same : label = k.route
    · simp [same]
    · simp [same, Ne.symm same]
  | cons e l ih =>
    rw [Labelled.alter]
    by_cases here : e.1 = k
    · rw [if_pos here, List.filter_cons, List.filter_cons, here]
      by_cases same : label = k.route
      · simp only [same, decide_true, if_true, List.map_cons, List.sum_cons]
        omega
      · simp [same, Ne.symm same]
    · rw [if_neg here, List.filter_cons, List.filter_cons]
      by_cases same : e.1.route = label
      · simp only [same, decide_true, if_true, List.map_cons, List.sum_cons, ih]
        omega
      · simp only [same, decide_false, Bool.false_eq_true, if_false, ih]

theorem requestTotal_countRequest (m : Metrics) (route label : RouteLabel) (status : Nat)
    (seconds : Decimal.Binary64) : (m.countRequest route status seconds).requestTotal label =
      m.requestTotal label + if label = route then 1 else 0 :=
  sum_alter_succ m.requests.entries ⟨route, status⟩ label

theorem count_durations_countRequest (m : Metrics) (route label : RouteLabel) (status : Nat)
    (seconds : Decimal.Binary64) :
    Samples.count (m.countRequest route status seconds).durations label =
      Samples.count m.durations label + if label = route then 1 else 0 :=
  Samples.count_observe_indicator m.durations route label seconds

theorem sameRequests_countGathered (g : Collection.Gathering) (m : Metrics) (s : Source) :
    m.SameRequests (countGathered g m s) := by
  rw [countGathered]
  split
  · exact ⟨rfl, rfl⟩
  · cases g.outcome s <;> exact ⟨rfl, rfl⟩

theorem sameRequests_countGathering (g : Collection.Gathering) (m : Metrics) (sources : List Source) :
    m.SameRequests (m.countGathering sources g) :=
  countGathering_induction (P := fun m' => m.SameRequests m') g (.refl m)
    (fun _ h => h.trans ⟨rfl, rfl⟩) (fun m' s h => h.trans (sameRequests_countGathered g m' s)) sources

end Metrics

/-! ### Work of the service -/

namespace Service

open Metrics (SameRequests)

theorem sameRequests_lasting (m : Metrics) :
    Lasting (fun _ => True) fun _ s => m.SameRequests s.metrics where
  served := by
    intro _ s c e h served
    rw [(s.look_of_served c served).2.2]
    exact h.trans ⟨rfl, rfl⟩
  missed := by
    intro _ s c found h missed
    rw [(s.look_of_missed c missed).2.2.2]
    cases found <;> exact h.trans ⟨rfl, rfl⟩
  renewed := by
    intro _ s c h _
    rw [renewed_metrics]
    exact h.trans ((Metrics.sameRequests_countGathering _ _ _).trans ⟨rfl, rfl⟩)
  dropped h := h.trans ⟨rfl, rfl⟩
  changed := by
    intro _ s x h _
    cases x <;> exact h

variable {s after : Service} {c : CaseId} {t : Timeline}

theorem sameRequests_step (s : Service) (x : Step) : s.metrics.SameRequests (s.step x).2.metrics :=
  @Lasting.step _ _ [] s (sameRequests_lasting s.metrics) x (fun _ _ => trivial) (.refl _)

theorem sameRequests_get (given : s.get false c = .ok (t, after)) :
    s.metrics.SameRequests after.metrics := by
  have same := s.sameRequests_step (.get false c)
  rw [step, given] at same
  exact same

theorem sameRequests_refresh (given : s.refresh c = .ok (t, after)) :
    s.metrics.SameRequests after.metrics := by
  have same := s.sameRequests_step (.refresh c)
  rw [step, given] at same
  exact same

theorem sameRequests_look (s : Service) (c : CaseId) : s.metrics.SameRequests (s.look c).2.metrics := by
  rcases s.lookAct_cases c with ⟨e, served⟩ | ⟨found, missed⟩
  · rw [(s.look_of_served c served).2.2]
    exact ⟨rfl, rfl⟩
  · exact @Lasting.missed _ _ (sameRequests_lasting s.metrics) [] s c found (.refl _) missed

end Service

namespace Http

/-! ### Work on routes -/

/-- What work on a route leaves of the counts of requests, and that it never says to be out of time. -/
def IsWork (s : Service) (a : Answer) : Prop :=
  ∀ r after, a = .ok (r, after) → s.metrics.SameRequests after.metrics ∧ r.status ≠ 408

section
variable {s : Service} {site : Site} {req : Request} {route : Route}

theorem isWork_kept {r : Response} (status : r.status ≠ 408) : IsWork s (.ok (r, s)) := by
  intro r' after given
  cases given
  exact ⟨.refl _, status⟩

theorem isWork_map {α : Type} {work : Except Breakdown (α × Service)}
    {f : α × Service → Response × Service} (status : ∀ x, (f x).1.status ≠ 408) (gives : ∀ x, (f x).2 = x.2)
    (same : ∀ x after, work = .ok (x, after) → s.metrics.SameRequests after.metrics) :
    IsWork s (work.map f) := by
  intro r after given
  rcases work with b | ⟨x, after'⟩
  · cases given
  · have made : f (x, after') = (r, after) := Except.ok.inj given
    have ended := gives (x, after')
    have told := status (x, after')
    rw [made] at ended told
    cases ended
    exact ⟨same x after rfl, told⟩

theorem isWork_onCase {written : String} {answer : CaseId → Answer}
    (work : ∀ c, IsWork s (answer c)) : IsWork s (onCase s written answer) := by
  have refused : 400 ≠ 408 := by decide
  rw [onCase]
  split
  next => exact isWork_kept refused
  next =>
    split
    next f _ => cases f <;> exact isWork_kept refused
    next c _ => exact work c

theorem isWork_answerCase (s : Service) (query : Option String) (written : String) :
    IsWork s (answerCase s query written) := by
  have refused : 400 ≠ 408 := by decide
  have fine : 200 ≠ 408 := by decide
  rw [answerCase]
  split
  next => exact isWork_kept refused
  next =>
    refine isWork_onCase fun c => ?_
    split
    next =>
      exact isWork_map (fun _ => fine) (fun _ => rfl) fun _ _ given => Service.sameRequests_get given
    next => exact isWork_kept fine

theorem isWork_answerRefresh (s : Service) (written : String) : IsWork s (answerRefresh s written) := by
  have fine : 200 ≠ 408 := by decide
  exact isWork_onCase fun _ =>
    isWork_map (fun _ => fine) (fun _ => rfl) fun _ _ given => Service.sameRequests_refresh given

theorem isWork_answerDrop (s : Service) (written : String) : IsWork s (answerDrop s written) := by
  refine isWork_onCase fun c => ?_
  intro r after given
  have same : s.metrics.SameRequests (s.invalidate c).2.metrics := s.sameRequests_step (.invalidate c)
  split at given
  next dropped =>
    cases given
    rw [dropped] at same
    exact ⟨same, by decide⟩
  next f _ dropped =>
    cases given
    rw [dropped] at same
    refine ⟨same, ?_⟩
    cases f with
    | unsupported => exact show 500 ≠ 408 by decide
    | _ => exact show 503 ≠ 408 by decide

theorem isWork_answerRoute (s : Service) (query : Option String) (route : Route) :
    IsWork s (answerRoute s query route) := by
  have fine : 200 ≠ 408 := by decide
  cases route with
  | caseView written => exact isWork_answerCase s query written
  | refresh written => exact isWork_answerRefresh s written
  | timeline written => exact isWork_answerDrop s written
  | ready =>
    obtain ⟨store, -, same⟩ := s.exists_cacheHealth
    intro r after given
    cases given
    refine ⟨?_, fine⟩
    show s.metrics.SameRequests s.cacheHealth.2.metrics
    rw [same]
    exact .refl _
  | live => exact isWork_kept fine
  | metrics => exact isWork_kept fine
  | description => exact isWork_kept fine

theorem isWork_workOn (s : Service) (req : Request) (route : Route) : IsWork s (workOn s req route) := by
  rw [workOn]
  split
  next => exact isWork_answerRoute s req.query route
  next =>
    have refused : 405 ≠ 408 := by decide
    exact isWork_kept refused

theorem sameRequests_waitingOn (s : Service) (route : Route) :
    s.metrics.SameRequests (s.waitingOn route).metrics := by
  have named : ∀ (o : Option CaseId) (f : CaseId → Service),
      (∀ c, s.metrics.SameRequests (f c).metrics) →
        s.metrics.SameRequests ((o.map f).getD s).metrics := by
    intro o f same
    cases o with
    | none => exact .refl _
    | some c => exact same c
  cases route with
  | caseView written => exact named _ _ s.sameRequests_look
  | refresh written => exact named _ _ fun c => s.sameRequests_step (.invalidate c)
  | timeline | live | ready | metrics | description => exact .refl _

theorem exists_of_answer {r : Response} {after : Service} (path : Route.ofPath? req.path = some route)
    (asks : req.method ≠ "OPTIONS") (given : site.answer s req = .ok (r, after)) :
    ∃ r', site.withTimeout s route (answerCounted s req route) = .ok (r', after) ∧
      r'.status = r.status := by
  simp only [Site.answer, path, Site.answerOn, if_neg asks] at given
  rcases timed : site.withTimeout s route (answerCounted s req route) with b | ⟨r', after'⟩
  · rw [timed] at given
    cases given
  · rw [timed] at given
    cases given
    refine ⟨r', rfl, ?_⟩
    rw [← site.origins.mark_status req r']
    split <;> rfl

/-- Whether what works on a route is done with a request before the time is over that it has. -/
def Site.isDoneInTime (site : Site) (s : Service) (req : Request) (route : Route) : Bool :=
  match workOn s req route with
  | .ok (_, after) =>
    after.elapsed.millis - s.elapsed.millis < (s.fitted site.timeout).ceilMillis
  | .error _ => false

/-- What an answer on a route leaves of the counts of requests. One that runs out of time is not counted. -/
theorem metrics_of_answer {r : Response} {after : Service} (path : Route.ofPath? req.path = some route)
    (asks : req.method ≠ "OPTIONS") (given : site.answer s req = .ok (r, after)) :
    ∃ m, s.metrics.SameRequests m ∧
      (site.isDoneInTime s req route = false ∧ r.status = 408 ∧ after.metrics = m ∨
        site.isDoneInTime s req route = true ∧ r.status ≠ 408 ∧ ∃ seconds,
          after.metrics = m.countRequest ⟨req.method, route.template⟩ r.status seconds) := by
  obtain ⟨r', timed, status⟩ := exists_of_answer path asks given
  rw [← status]
  rcases work : workOn s req route with b | ⟨r'', after'⟩
  · rw [answerCounted, work] at timed
    cases timed
  obtain ⟨same, intime⟩ := isWork_workOn s req route _ _ work
  obtain ⟨seconds, counted⟩ := answerCounted_of_workOn work
  simp only [counted, Site.withTimeout, Except.map] at timed
  rw [Site.isDoneInTime, work]
  split at timed
  next late =>
    cases timed
    exact ⟨_, sameRequests_waitingOn s route, .inl ⟨decide_eq_false (Nat.not_lt.2 late), rfl, rfl⟩⟩
  next early =>
    cases timed
    exact ⟨_, same, .inr ⟨decide_eq_true (Nat.not_le.1 early), intime, seconds, rfl⟩⟩

end

/-! ### Runs of requests -/

/-- A service whose work for a request broke down, as far as it had come. -/
def brokenOn (s : Service) : Option Route → Service
  | none => s
  | some route => { s.waitingOn route with clients := s.clients }

/-- Answers a request, if nothing breaks down. -/
def Site.handle (site : Site) (s : Service) (req : Request) : Option Response × Service :=
  match site.answer s req with
  | .ok (r, after) => (some r, after)
  | .error _ => (none, brokenOn s (Route.ofPath? req.path))

inductive Happening where
  | request (req : Request)
  | change (x : Change)

/-- A request, with its answer if nothing broke down. -/
structure Handled where
  request : Request
  response : Option Response
  /-- Whether it has a route and what works on it was done in time. -/
  inTime : Bool

def Site.handled (site : Site) (s : Service) (req : Request) : Handled :=
  ⟨req, (site.handle s req).1, (Route.ofPath? req.path).any (site.isDoneInTime s req)⟩

/-- The requests among what happens, in their order, and the service after it. -/
def Site.serve (site : Site) : Service → List Happening → List Handled × Service
  | s, [] => ([], s)
  | s, .change x :: hs => site.serve (s.change x) hs
  | s, .request req :: hs =>
    let (rest, last) := site.serve (site.handle s req).2 hs
    (site.handled s req :: rest, last)

def Route.templates : List String :=
  ["/support/cases/:case_id", "/support/cases/:case_id/timeline/refresh",
    "/support/cases/:case_id/timeline", "/health/live", "/health/ready", "/metrics", "/openapi.json"]

theorem Route.template_mem (route : Route) : route.template ∈ templates := by
  cases route <;> simp [template, templates]

/-- Whether a request with this method was answered by what works on a route with this template. One that
runs out of time is not, and neither is a question about what requests may be. -/
def Handled.completes (label : RouteLabel) (h : Handled) : Bool :=
  h.response.isSome && h.inTime && h.request.method = label.method && h.request.method ≠ "OPTIONS" &&
    (Route.ofPath? h.request.path).map Route.template = some label.route

/-- A request on a route is told to have run out of time exactly if it has. -/
def Handled.TellsTime (h : Handled) : Prop :=
  h.request.method ≠ "OPTIONS" → (Route.ofPath? h.request.path).isSome → ∀ r, h.response = some r →
    (r.status = 408 ↔ h.inTime = false)

theorem tellsTime_of_iff {req : Request} {r : Response} {inTime : Bool}
    (told : r.status = 408 ↔ inTime = false) : Handled.TellsTime ⟨req, some r, inTime⟩ := by
  rintro - - r' same
  cases same
  exact told

/-- Requests are counted by the templates of routes, each once that was answered on one. -/
structure Counts (m : Metrics) (log : List Handled) : Prop where
  requests : ∀ l ∈ m.requests.labels, l.route.route ∈ Route.templates
  durations : ∀ l ∈ m.durations.labels, l.route ∈ Route.templates
  total : ∀ label, m.requestTotal label = log.countP (Handled.completes label)
  observed : ∀ label, Samples.count m.durations label = log.countP (Handled.completes label)
  timed : ∀ h ∈ log, h.TellsTime

section
variable {m m' : Metrics} {log : List Handled} {x : Handled}

theorem Counts.congr (h : Counts m log) (same : m.SameRequests m') : Counts m' log := by
  obtain ⟨requests, durations⟩ := same
  refine ⟨?_, ?_, fun label => ?_, fun label => ?_, h.timed⟩
  · rw [requests]
    exact h.requests
  · rw [durations]
    exact h.durations
  · rw [Metrics.requestTotal, requests]
    exact h.total label
  · rw [durations]
    exact h.observed label

theorem Counts.timed_append (h : Counts m log) (tells : x.TellsTime) :
    ∀ y ∈ log ++ [x], y.TellsTime := by
  rw [List.forall_mem_append, List.forall_mem_singleton]
  exact ⟨h.timed, tells⟩

/-- A request that was not answered on a route changes nothing. -/
theorem Counts.skip (h : Counts m log) (tells : x.TellsTime)
    (uncounted : ∀ label, x.completes label = false) : Counts m (log ++ [x]) := by
  have same : ∀ label,
      (log ++ [x]).countP (Handled.completes label) = log.countP (Handled.completes label) := by
    intro label
    rw [List.countP_append, List.countP_singleton, uncounted label]
    rfl
  refine ⟨h.requests, h.durations, fun label => ?_, fun label => ?_, h.timed_append tells⟩
  · rw [same, h.total]
  · rw [same, h.observed]

theorem Handled.completes_iff {route : Route} (path : Route.ofPath? x.request.path = some route)
    (asks : x.request.method ≠ "OPTIONS") (answered : x.response.isSome = true)
    (inTime : x.inTime = true) (label : RouteLabel) :
    x.completes label = true ↔ label = ⟨x.request.method, route.template⟩ := by
  obtain ⟨method, template⟩ := label
  simp only [completes, path, answered, inTime, Option.map_some, Bool.and_eq_true, decide_eq_true_eq,
    Option.some.injEq, RouteLabel.mk.injEq, true_and]
  constructor
  · rintro ⟨⟨same, -⟩, same'⟩
    exact ⟨same.symm, same'.symm⟩
  · rintro ⟨rfl, rfl⟩
    exact ⟨⟨rfl, asks⟩, rfl⟩

/-- A request that was answered on a route is counted once, under its template. -/
theorem Counts.count (h : Counts m log) (tells : x.TellsTime) {route : Route}
    (path : Route.ofPath? x.request.path = some route) (asks : x.request.method ≠ "OPTIONS")
    (answered : x.response.isSome = true) (inTime : x.inTime = true) (status : Nat)
    (seconds : Decimal.Binary64) :
    Counts (m.countRequest ⟨x.request.method, route.template⟩ status seconds) (log ++ [x]) := by
  have more : ∀ label, (log ++ [x]).countP (Handled.completes label) =
      log.countP (Handled.completes label) +
        if label = ⟨x.request.method, route.template⟩ then 1 else 0 := by
    intro label
    rw [List.countP_append, List.countP_singleton]
    simp only [Handled.completes_iff path asks answered inTime]
  refine ⟨fun l hl => ?_, fun l hl => ?_, fun label => ?_, fun label => ?_, h.timed_append tells⟩
  · rcases Metrics.Labelled.mem_alter_fst.1 hl with rfl | hl
    · exact route.template_mem
    · exact h.requests l hl
  · rcases Metrics.Labelled.mem_alter_fst.1 hl with rfl | hl
    · exact route.template_mem
    · exact h.durations l hl
  · rw [more, Metrics.requestTotal_countRequest, h.total]
  · rw [more, Metrics.count_durations_countRequest, h.observed]

end

section
variable {site : Site} {s : Service} {log : List Handled}

theorem sameRequests_brokenOn (s : Service) (route : Option Route) :
    s.metrics.SameRequests (brokenOn s route).metrics := by
  cases route with
  | none => exact .refl _
  | some route => exact sameRequests_waitingOn s route

theorem handled_of_answer {req : Request} {r : Response} {after : Service}
    (given : site.answer s req = .ok (r, after)) : site.handle s req = (some r, after) := by
  rw [Site.handle, given]

theorem counts_handle (site : Site) (req : Request) (h : Counts s.metrics log) :
    Counts (site.handle s req).2.metrics (log ++ [site.handled s req]) := by
  rcases given : site.answer s req with b | ⟨r, after⟩
  · have broken : site.handle s req = (none, brokenOn s (Route.ofPath? req.path)) := by
      rw [Site.handle, given]
    rw [Site.handled, broken]
    exact (h.congr (sameRequests_brokenOn s _)).skip (fun _ _ _ h => nomatch h) fun _ => rfl
  have handled := handled_of_answer given
  rw [Site.handled, handled]
  by_cases options : req.method = "OPTIONS"
  · obtain ⟨r', answered⟩ := answer_of_options site s options
    cases answered.symm.trans given
    refine h.skip (fun asks => absurd options asks) fun label => ?_
    simp [Handled.completes, options]
  cases path : Route.ofPath? req.path with
  | none =>
    obtain ⟨r', answered⟩ := answer_of_unrouted site s options path
    cases answered.symm.trans given
    refine h.skip (fun _ routed => ?_) fun label => ?_
    · rw [path] at routed
      cases routed
    · simp [Handled.completes]
  | some route =>
    obtain ⟨m, same, ⟨late, told, left⟩ | ⟨inTime, told, seconds, counted⟩⟩ :=
      metrics_of_answer path options given
    · refine Counts.skip (m := after.metrics) (left ▸ h.congr same)
        (tellsTime_of_iff (iff_of_true told late)) fun label => ?_
      simp [Handled.completes, late]
    · have tells : Handled.TellsTime ⟨req, some r, site.isDoneInTime s req route⟩ :=
        tellsTime_of_iff (iff_of_false told (ne_false_of_eq_true inTime))
      show Counts after.metrics _
      rw [counted]
      exact (h.congr same).count tells path options rfl inTime r.status seconds

theorem counts_change (x : Change) (h : Counts s.metrics log) : Counts (s.change x).metrics log := by
  cases x <;> exact h

theorem counts_serve_of_counts (site : Site) (hs : List Happening) (h : Counts s.metrics log) :
    Counts (site.serve s hs).2.metrics (log ++ (site.serve s hs).1) := by
  induction hs generalizing s log with
  | nil =>
    rw [Site.serve, List.append_nil]
    exact h
  | cons x hs ih =>
    cases x with
    | change x => exact ih (counts_change x h)
    | request req =>
      have rest := ih (counts_handle site req h)
      rw [List.append_assoc] at rest
      exact rest

theorem counts_fresh : Counts .fresh [] :=
  ⟨fun _ h => (nomatch h), fun _ h => (nomatch h), fun _ => rfl, fun _ => rfl, fun _ h => (nomatch h)⟩

/-- The counts of a service that was started fresh, after whatever happened to it. -/
theorem counts_serve (site : Site) (settings : TimelineSettings) (clients : List Collection.Client)
    (store : Cache.Store) (storeClock : Cache.Clock) (today : Instant) (hs : List Happening) :
    Counts (site.serve (.new settings clients store storeClock today) hs).2.metrics
      (site.serve (.new settings clients store storeClock today) hs).1 := by
  have start : Counts (Service.new settings clients store storeClock today).metrics [] := counts_fresh
  exact counts_serve_of_counts site hs start

end

end Http
end Casebook
