import Casebook.Proofs.Collection.Joining
import Casebook.Service.Basic

/-!
# Runs of the service

A run is a list of steps: timelines are asked for, refreshed and invalidated, and between that the world
around the service changes. Every step is made of a few acts, each of which asks one store call or one
collection. Main statement: what every act and every change keeps, every run keeps.
-/

namespace Casebook

open Cache (Call Clock)
open Collection (Behaviour Client Gathering Task)
open Metrics (CacheEvent)

def someCase : CaseId :=
  ⟨"case-1", by decide, by decide,
    List.all_eq_true.1 (by decide : "case-1".toList.all CaseId.isLegalChar = true)⟩

inductive Change where
  /-- The instant by which freshness is judged is another one, earlier or later. -/
  | today (now : Instant)
  /-- A store that refuses calls refuses these from now on. No work makes two calls of one kind, so
  changes between the steps of a run make any calls of the run fail. -/
  | refusals (calls : List Call)
  | storeClock (now : Clock)
  | script (place : Nat) (behaviour : Behaviour)

inductive Step where
  | get (forced : Bool) (c : CaseId)
  | refresh (c : CaseId)
  | invalidate (c : CaseId)
  | change (x : Change)

inductive Answer where
  | timeline (t : Timeline)
  | broken (b : Breakdown)
  | dropped (existed : Except CacheFault Bool)
  | changed

/-- What a service does, one call of the store or one collection at a time. -/
inductive Act where
  | served (e : Entry)
  | missed (c : CaseId) (found : Except CacheFault (Option Entry))
  | renewed (joined : List Task) (e : Entry) (kept : Except CacheFault Unit)
  | dropped (c : CaseId) (existed : Except CacheFault Bool)

namespace Service

variable (s : Service) (c : CaseId)

/-! ### Collections -/

/-- Whether the clock of the machine shows the deadlines of a collection. -/
def showsDeadlines : Bool :=
  s.reaches s.settings.aggregationDeadline && s.reaches s.settings.perSourceTimeout

def tasks : List Task := Collection.tasks s.budget s.clients

def inTime : List Task := Collection.inTime s.budget s.tasks

def mergedBy (joined : List Task) : Timeline :=
  Timeline.merge ((Gathering.ofTasks joined).outcomesOf s.sources)

def collectedBy (joined : List Task) : Service :=
  let took := Span.ofMillis (Collection.wait s.budget s.tasks)
  { s with
    clients := if s.budget.total = 0 then s.clients else Client.askAll s.sourceDeadline s.clients
    metrics := (s.metrics.countGathering s.sources (Gathering.ofTasks joined)).observeCollection
      .remote (secondsOf took)
    elapsed := s.elapsed.plus took }

/-- A collection that joins some tasks, in their order. -/
def collectBy (joined : List Task) : Except Breakdown (Timeline × Service) :=
  if s.showsDeadlines then .ok (s.mergedBy joined, s.collectedBy joined) else .error .deadline

theorem collectedBy_frame (joined : List Task) : ∃ clients metrics elapsed,
    s.collectedBy joined = { s with clients, metrics, elapsed } := ⟨_, _, _, rfl⟩

theorem collectedBy_settings (joined : List Task) :
    (s.collectedBy joined).settings = s.settings := by
  obtain ⟨clients, metrics, elapsed, h⟩ := s.collectedBy_frame joined
  rw [h]

theorem collectedBy_store (joined : List Task) : (s.collectedBy joined).store = s.store := by
  obtain ⟨clients, metrics, elapsed, h⟩ := s.collectedBy_frame joined
  rw [h]

theorem collectedBy_today (joined : List Task) : (s.collectedBy joined).today = s.today := by
  obtain ⟨clients, metrics, elapsed, h⟩ := s.collectedBy_frame joined
  rw [h]

theorem collectedBy_storeClock (joined : List Task) :
    (s.collectedBy joined).storeClock = s.storeClock := by
  obtain ⟨clients, metrics, elapsed, h⟩ := s.collectedBy_frame joined
  rw [h]

theorem collectedBy_metrics (joined : List Task) : (s.collectedBy joined).metrics =
    (s.metrics.countGathering s.sources (Gathering.ofTasks joined)).observeCollection .remote
      (secondsOf (Span.ofMillis (Collection.wait s.budget s.tasks))) := rfl

theorem map_script_collectedBy (joined : List Task) :
    (s.collectedBy joined).clients.map Client.script = s.clients.map Client.script := by
  rw [collectedBy]
  split
  · rfl
  · exact Client.map_script_askAll _ _

theorem sources_collectedBy (joined : List Task) : (s.collectedBy joined).sources = s.sources :=
  Client.sources_congr (Client.map_source_of_scripts (s.map_script_collectedBy joined))

theorem collect_eq : s.collect = s.collectBy s.inTime := by
  have same : (s.collectedBy s.inTime).sources = s.sources := s.sources_collectedBy _
  rw [collectBy, mergedBy, ← same]
  rfl

def merged : Timeline := s.mergedBy s.inTime

def entryOf (t : Timeline) : Entry :=
  Entry.keep c t s.today (s.settings.ttlFor t.degraded)

def renewed : Service := (s.collectedBy s.inTime).keep c s.merged

theorem renew_eq :
    s.renew c = if s.showsDeadlines then .ok (s.merged, s.renewed c) else .error .deadline := by
  rw [renew, collect_eq, collectBy]
  split <;> rfl

/-! ### Steps -/

/-- The answer to work that gives a timeline; work that breaks down leaves the service as far as it
had come. -/
def answered (work : Except Breakdown (Timeline × Service)) (left : Service) : Answer × Service :=
  match work with
  | .ok (t, s) => (.timeline t, s)
  | .error b => (.broken b, left)

def change : Change → Service
  | .today now => { s with today := now }
  | .refusals calls => { s with store := s.store.setRefused calls }
  | .storeClock now => { s with storeClock := now }
  | .script place behaviour =>
    { s with clients := s.clients.modify place fun c => { c with behaviour } }

theorem map_source_change (x : Change) :
    (s.change x).clients.map (·.source) = s.clients.map (·.source) := by
  cases x with
  | today now => rfl
  | refusals calls => rfl
  | storeClock now => rfl
  | script place behaviour =>
    exact Client.map_source_modify (fun c => { c with behaviour }) (fun _ => rfl) s.clients place

theorem sources_change (x : Change) : (s.change x).sources = s.sources :=
  Client.sources_congr (s.map_source_change x)

def step : Step → Answer × Service
  | .get forced c => answered (s.get forced c) (if forced then s else (s.look c).2)
  | .refresh c => answered (s.refresh c) (s.invalidate c).2
  | .invalidate c => (.dropped (s.invalidate c).1, (s.invalidate c).2)
  | .change x => (.changed, s.change x)

def after (s : Service) (xs : List Step) : Service :=
  xs.foldl (fun s x => (s.step x).2) s

def answers : Service → List Step → List Answer
  | _, [] => []
  | s, x :: xs => (s.step x).1 :: answers (s.step x).2 xs

/-! ### Acts -/

def lookAct : Act :=
  match (s.store.load s.storeClock c).1 with
  | .ok (some e) => if e.isFreshAt s.today then .served e else .missed c (.ok (some e))
  | found => .missed c found

def renewAct : Act :=
  .renewed s.inTime (s.entryOf c s.merged)
    (s.store.keep s.storeClock (s.entryOf c s.merged)).1

def dropAct : Act := .dropped c (s.store.drop c).1

def renewal : List Act := if s.showsDeadlines then [s.renewAct c] else []

def acts : Step → List Act
  | .get true c => s.renewal c
  | .get false c =>
    s.lookAct c :: if (s.look c).1.isSome then [] else (s.look c).2.renewal c
  | .refresh c => s.dropAct c :: (s.invalidate c).2.renewal c
  | .invalidate c => [s.dropAct c]
  | .change _ => []

/-- What the service does in a run. -/
def history : Service → List Step → List Act
  | _, [] => []
  | s, x :: xs => s.acts x ++ history (s.step x).2 xs

theorem look_of_served {e : Entry} (h : s.lookAct c = .served e) :
    (s.store.load s.storeClock c).1 = .ok (some e) ∧ e.isFreshAt s.today = true ∧
      s.look c = (some e.timeline,
        { s with
          store := (s.store.load s.storeClock c).2
          metrics := s.metrics.countCache .hit }) := by
  rw [lookAct] at h
  rw [look]
  rcases hl : s.store.load s.storeClock c with ⟨found, store⟩
  rw [hl] at h
  rcases found with f | _ | e'
  · cases h
  · cases h
  · simp only at h ⊢
    split at h
    next fresh =>
      cases h
      rw [if_pos fresh]
      exact ⟨rfl, fresh, rfl⟩
    next => cases h

def missMetrics (found : Except CacheFault (Option Entry)) (m : Metrics) : Metrics :=
  match found with
  | .ok _ => m.countCache .miss
  | .error _ => (m.countCache .error).countCache .miss

theorem look_of_missed {c' : CaseId} {found : Except CacheFault (Option Entry)}
    (h : s.lookAct c = .missed c' found) :
    c' = c ∧ found = (s.store.load s.storeClock c).1 ∧
      (∀ e, found = .ok (some e) → e.isFreshAt s.today = false) ∧
      s.look c = (none,
        { s with
          store := (s.store.load s.storeClock c).2
          metrics := missMetrics found s.metrics }) := by
  rw [lookAct] at h
  rw [look]
  rcases hl : s.store.load s.storeClock c with ⟨answer, store⟩
  rw [hl] at h
  rcases answer with f | _ | e'
  · cases h
    exact ⟨rfl, rfl, fun e he => (by cases he), rfl⟩
  · cases h
    exact ⟨rfl, rfl, fun e he => (by cases he), rfl⟩
  · simp only at h ⊢
    split at h
    next => cases h
    next stale =>
      cases h
      have old : e'.isFreshAt s.today = false := by simpa using stale
      refine ⟨rfl, rfl, ?_, ?_⟩
      · intro e he
        cases he
        exact old
      · rw [if_neg stale]
        rfl

theorem lookAct_cases :
    (∃ e, s.lookAct c = .served e) ∨ ∃ found, s.lookAct c = .missed c found := by
  rw [lookAct]
  split
  next e _ =>
    split
    next => exact .inl ⟨e, rfl⟩
    next => exact .inr ⟨_, rfl⟩
  next => exact .inr ⟨_, rfl⟩

theorem look_snd : ∃ m, (s.look c).2 =
    { s with store := (s.store.load s.storeClock c).2, metrics := m } := by
  rcases s.lookAct_cases c with ⟨e, h⟩ | ⟨found, h⟩
  · rw [(s.look_of_served c h).2.2]
    exact ⟨_, rfl⟩
  · rw [(s.look_of_missed c h).2.2.2]
    exact ⟨_, rfl⟩

@[simp] theorem look_settings : (s.look c).2.settings = s.settings := by
  obtain ⟨m, h⟩ := s.look_snd c
  rw [h]

@[simp] theorem look_clients : (s.look c).2.clients = s.clients := by
  obtain ⟨m, h⟩ := s.look_snd c
  rw [h]

@[simp] theorem look_store : (s.look c).2.store = (s.store.load s.storeClock c).2 := by
  obtain ⟨m, h⟩ := s.look_snd c
  rw [h]

@[simp] theorem look_today : (s.look c).2.today = s.today := by
  obtain ⟨m, h⟩ := s.look_snd c
  rw [h]

@[simp] theorem look_elapsed : (s.look c).2.elapsed = s.elapsed := by
  obtain ⟨m, h⟩ := s.look_snd c
  rw [h]

@[simp] theorem look_storeClock : (s.look c).2.storeClock = s.storeClock := by
  obtain ⟨m, h⟩ := s.look_snd c
  rw [h]

def eventOf {α : Type} (use : CacheEvent) (answer : Except CacheFault α) : CacheEvent :=
  if answer.toBool then use else .error

theorem keep_eq (t : Timeline) : s.keep c t =
    { s with
      store := (s.store.keep s.storeClock (s.entryOf c t)).2
      metrics := s.metrics.countCache
        (eventOf .write (s.store.keep s.storeClock (s.entryOf c t)).1) } := by
  rw [keep, ← entryOf]
  rcases s.store.keep s.storeClock (s.entryOf c t) with ⟨_ | _, store⟩ <;> rfl

theorem renewed_eq : s.renewed c =
    { s.collectedBy s.inTime with
      store := (s.store.keep s.storeClock (s.entryOf c s.merged)).2
      metrics := (s.collectedBy s.inTime).metrics.countCache
        (eventOf .write (s.store.keep s.storeClock (s.entryOf c s.merged)).1) } := by
  have same : (s.collectedBy s.inTime).entryOf c s.merged = s.entryOf c s.merged := by
    rw [entryOf, entryOf, collectedBy_today, collectedBy_settings]
  have kept : (s.collectedBy s.inTime).store.keep (s.collectedBy s.inTime).storeClock
      (s.entryOf c s.merged) = s.store.keep s.storeClock (s.entryOf c s.merged) := by
    rw [collectedBy_store, collectedBy_storeClock]
  rw [renewed, keep_eq, same, kept]

theorem renewed_sources : (s.renewed c).sources = s.sources := by
  have kept : (s.renewed c).clients = (s.collectedBy s.inTime).clients := by rw [renewed, keep_eq]
  rw [sources, kept]
  exact s.sources_collectedBy s.inTime

theorem renewed_settings : (s.renewed c).settings = s.settings := by
  rw [renewed_eq]
  exact s.collectedBy_settings s.inTime

theorem renewed_scripts :
    (s.renewed c).clients.map Client.script = s.clients.map Client.script := by
  rw [renewed_eq]
  exact s.map_script_collectedBy s.inTime

theorem renewed_store :
    (s.renewed c).store = (s.store.keep s.storeClock (s.entryOf c s.merged)).2 := by
  rw [renewed_eq]

theorem renewed_today : (s.renewed c).today = s.today := by
  rw [renewed_eq]
  exact s.collectedBy_today s.inTime

theorem renewed_storeClock : (s.renewed c).storeClock = s.storeClock := by
  rw [renewed_eq]
  exact s.collectedBy_storeClock s.inTime

theorem renewed_elapsed :
    (s.renewed c).elapsed = s.elapsed.plus (.ofMillis (Collection.wait s.budget s.tasks)) := by
  rw [renewed_eq]
  rfl

theorem renewed_metrics : (s.renewed c).metrics =
    ((s.metrics.countGathering s.sources (Gathering.ofTasks s.inTime)).observeCollection .remote
      (secondsOf (Span.ofMillis (Collection.wait s.budget s.tasks)))).countCache
        (eventOf .write (s.store.keep s.storeClock (s.entryOf c s.merged)).1) := by
  rw [← collectedBy_metrics, renewed_eq]

/-! ### Steps as acts -/

theorem get_of_served {e : Entry} (h : s.lookAct c = .served e) :
    s.get false c = .ok (e.timeline, (s.look c).2.observe .cache .zero) := by
  rw [get, if_neg Bool.false_ne_true, (s.look_of_served c h).2.2]

theorem get_of_missed {found : Except CacheFault (Option Entry)}
    (h : s.lookAct c = .missed c found) : s.get false c = (s.look c).2.renew c := by
  rw [get, if_neg Bool.false_ne_true, (s.look_of_missed c h).2.2.2]

theorem answered_renew : answered (s.renew c) s =
    if s.showsDeadlines then (.timeline s.merged, s.renewed c) else (.broken .deadline, s) := by
  rw [renew_eq]
  split <;> rfl

theorem step_of_served {e : Entry} (h : s.lookAct c = .served e) :
    s.step (.get false c) = (.timeline e.timeline, (s.look c).2.observe .cache .zero) := by
  rw [step, get_of_served s c h, answered]

theorem step_of_missed {found : Except CacheFault (Option Entry)}
    (h : s.lookAct c = .missed c found) :
    s.step (.get false c) = answered ((s.look c).2.renew c) (s.look c).2 := by
  rw [step, get_of_missed s c h]
  rfl

theorem step_forced : s.step (.get true c) = answered (s.renew c) s := rfl

theorem step_refresh :
    s.step (.refresh c) = answered ((s.invalidate c).2.renew c) (s.invalidate c).2 := rfl

theorem acts_of_served {e : Entry} (h : s.lookAct c = .served e) :
    s.acts (.get false c) = [.served e] := by
  rw [acts, h, (s.look_of_served c h).2.2]
  rfl

theorem acts_of_missed {found : Except CacheFault (Option Entry)}
    (h : s.lookAct c = .missed c found) :
    s.acts (.get false c) = .missed c found :: (s.look c).2.renewal c := by
  rw [acts, h, (s.look_of_missed c h).2.2.2]
  rfl

/-- A statement about the acts so far and the service that all acts and some changes keep. -/
structure Lasting (allowed : Change → Prop) (I : List Act → Service → Prop) : Prop where
  served : ∀ {past : List Act} {s : Service} {c : CaseId} {e : Entry}, I past s →
    s.lookAct c = .served e → I (past ++ [.served e]) ((s.look c).2.observe .cache .zero)
  missed : ∀ {past : List Act} {s : Service} {c : CaseId} {found : Except CacheFault (Option Entry)},
    I past s → s.lookAct c = .missed c found → I (past ++ [.missed c found]) (s.look c).2
  renewed : ∀ {past : List Act} {s : Service} {c : CaseId}, I past s → s.showsDeadlines = true →
    I (past ++ [s.renewAct c]) (s.renewed c)
  dropped : ∀ {past : List Act} {s : Service} {c : CaseId}, I past s →
    I (past ++ [s.dropAct c]) (s.invalidate c).2
  changed : ∀ {past : List Act} {s : Service} {x : Change}, I past s → allowed x →
    I past (s.change x)

namespace Lasting

variable {allowed : Change → Prop} {I : List Act → Service → Prop} {past : List Act} {s : Service}

theorem renewal (hI : Lasting allowed I) (c : CaseId) (h : I past s) :
    I (past ++ s.renewal c) (answered (s.renew c) s).2 := by
  rw [answered_renew, Service.renewal]
  split
  next shown => exact hI.renewed h shown
  next =>
    rw [List.append_nil]
    exact h

theorem step (hI : Lasting allowed I) {x : Step} (hx : ∀ y, x = .change y → allowed y)
    (h : I past s) : I (past ++ s.acts x) (s.step x).2 := by
  cases x with
  | get forced c =>
    cases forced with
    | true =>
      rw [step_forced]
      exact hI.renewal c h
    | false =>
      rcases s.lookAct_cases c with ⟨e, he⟩ | ⟨found, hf⟩
      · rw [acts_of_served s c he, step_of_served s c he]
        exact hI.served h he
      · rw [acts_of_missed s c hf, step_of_missed s c hf, List.append_cons]
        exact hI.renewal c (hI.missed h hf)
  | refresh c =>
    rw [step_refresh, acts, List.append_cons]
    exact hI.renewal c (hI.dropped h)
  | invalidate c => exact hI.dropped h
  | change y =>
    rw [acts, List.append_nil]
    exact hI.changed h (hx y rfl)

theorem run (hI : Lasting allowed I) {xs : List Step} (hx : ∀ y, .change y ∈ xs → allowed y)
    (h : I past s) : I (past ++ s.history xs) (s.after xs) := by
  induction xs generalizing past s with
  | nil =>
    rw [history, List.append_nil]
    exact h
  | cons x xs ih =>
    have first := hI.step (x := x) (fun y hy => hx y (hy ▸ List.mem_cons_self)) h
    have rest := ih (fun y hy => hx y (List.mem_cons_of_mem _ hy)) first
    rw [history, ← List.append_assoc]
    exact rest

end Lasting

/-! ### Answers -/

theorem merged_congr {s s' : Service} (hs : s'.settings = s.settings)
    (hc : s'.clients.map Client.script = s.clients.map Client.script) : s'.merged = s.merged := by
  have hb : s'.budget = s.budget := by rw [budget, budget, hs]
  have ht : s'.tasks = s.tasks := by rw [tasks, tasks, hb, Collection.tasks_congr _ hc]
  have hi : s'.inTime = s.inTime := by rw [inTime, inTime, hb, ht]
  have hr : s'.sources = s.sources := Client.sources_congr (Client.map_source_of_scripts hc)
  rw [merged, merged, mergedBy, mergedBy, hi, hr]

theorem merged_eq : s.merged = Timeline.merge (Client.outcomes s.budget s.clients) := by
  rw [merged, mergedBy, ← Collection.outcomesOf_inTime]
  rfl

theorem step_timeline {x : Step} {t : Timeline} (h : (s.step x).1 = .timeline t) :
    (∃ c e, s.lookAct c = .served e ∧ t = e.timeline) ∨ t = s.merged := by
  have collected : ∀ (s' : Service) {c : CaseId}, s'.merged = s.merged →
      (answered (s'.renew c) s').1 = .timeline t → t = s.merged := by
    intro s' c same h
    rw [answered_renew] at h
    split at h
    next =>
      cases h
      exact same
    next => cases h
  cases x with
  | get forced c =>
    cases forced with
    | true => exact .inr (collected s rfl h)
    | false =>
      rcases s.lookAct_cases c with ⟨e, he⟩ | ⟨found, hf⟩
      · rw [step_of_served s c he] at h
        cases h
        exact .inl ⟨c, e, he, rfl⟩
      · rw [step_of_missed s c hf] at h
        have same := merged_congr (s.look_settings c) (by rw [look_clients])
        exact .inr (collected (s.look c).2 same h)
  | refresh c => exact .inr (collected (s.invalidate c).2 (merged_congr rfl rfl) h)
  | invalidate c => cases h
  | change y => cases h

theorem exists_of_mem_answers {s : Service} {xs : List Step} {a : Answer} (h : a ∈ s.answers xs) :
    ∃ ys x zs, xs = ys ++ x :: zs ∧ ((s.after ys).step x).1 = a := by
  induction xs generalizing s with
  | nil => cases h
  | cons x xs ih =>
    rcases List.mem_cons.1 h with rfl | h
    · exact ⟨[], x, xs, rfl, rfl⟩
    · obtain ⟨ys, y, zs, rfl, hy⟩ := ih h
      exact ⟨x :: ys, y, zs, rfl, hy⟩

end Service
end Casebook
