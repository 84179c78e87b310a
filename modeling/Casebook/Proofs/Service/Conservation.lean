import Casebook.Proofs.Metrics.Counting
import Casebook.Proofs.Service.Run

/-!
# Conservation of the counts

After a run the counts of a service agree with each other and with what was done: every look is a hit or
a miss, every collection is written or fails to be, every failed call of the store is an error, and every
collection counts each source that has a client once. The counts are compared with the acts of the run
first, and the acts with its steps and answers then.
-/

namespace Casebook

open Cache (Clock Store)
open Collection (Client Gathering Task)
open Metrics (CacheEvent Origin Samples Tally Balanced)

namespace Act

/-- How often an act counts as a use of the cache. -/
def uses (e : CacheEvent) : Act → Nat
  | .served _ => if e = .hit then 1 else 0
  | .missed _ (.ok _) => if e = .miss then 1 else 0
  | .missed _ (.error _) => if e = .error ∨ e = .miss then 1 else 0
  | .renewed _ _ (.ok _) => if e = .write then 1 else 0
  | .renewed _ _ (.error _) => if e = .error then 1 else 0
  | .dropped _ (.ok _) => if e = .invalidate then 1 else 0
  | .dropped _ (.error _) => if e = .error then 1 else 0

def gives (o : Origin) : Act → Nat
  | .served _ => if o = .cache then 1 else 0
  | .renewed .. => if o = .remote then 1 else 0
  | _ => 0

def lost : Act → Nat
  | .renewed joined _ _ => joined.countP fun t => t.ending = .lost
  | _ => 0

/-- Whether the store failed to load an entry: it was not available or had damage in its place. -/
def isUnread : Act → Bool
  | .missed _ (.error _) => true
  | _ => false

def isUnkept : Act → Bool
  | .renewed _ _ (.error _) => true
  | _ => false

/-- Whether dropping an entry succeeded, also if there was none. -/
def isDropped : Act → Bool
  | .dropped _ (.ok _) => true
  | _ => false

def isUndropped : Act → Bool
  | .dropped _ (.error _) => true
  | _ => false

end Act

def Step.asks : Step → Bool
  | .get .. => true
  | .refresh _ => true
  | _ => false

/-- Whether a step asks for a timeline that may come from the cache. -/
def Step.mayBeServed : Step → Bool
  | .get false _ => true
  | _ => false

def Answer.isTimeline : Answer → Bool
  | .timeline _ => true
  | _ => false

/-- Whether a step ends without the answer that it should have. -/
def Answer.isBroken : Answer → Bool
  | .broken _ => true
  | _ => false

namespace Service

/-! ### Counts of acts -/

def total (f : Act → Nat) (acts : List Act) : Nat := (acts.map f).sum

theorem total_append (f : Act → Nat) (as bs : List Act) :
    total f (as ++ bs) = total f as + total f bs := by
  rw [total, List.map_append, List.sum_append]
  rfl

theorem total_cons (f : Act → Nat) (a : Act) (as : List Act) :
    total f (a :: as) = f a + total f as := by
  rw [total, List.map_cons, List.sum_cons]
  rfl

theorem total_snoc (f : Act → Nat) (as : List Act) (a : Act) :
    total f (as ++ [a]) = total f as + f a := total_append f as [a]

/-- The counts are those of some acts of a service that asks some sources. -/
structure Counted (sources : List Source) (past : List Act) (m : Metrics) : Prop where
  uses : ∀ e, Tally.count m.cacheEvents e = total (Act.uses e) past
  gives : ∀ o, Samples.count m.collections o = total (Act.gives o) past
  source : ∀ s, m.sourceTotal s = if s ∈ sources then total (Act.gives .remote) past else 0
  balanced : Balanced (total Act.lost past) m

theorem counted_fresh (sources : List Source) : Counted sources [] .fresh where
  uses := fun e => rfl
  gives := fun o => rfl
  source := fun s => by cases s <;> exact (ite_self _).symm
  balanced := ⟨rfl, rfl, rfl⟩

theorem count_eventOf {α : Type} (use : CacheEvent) (answer : Except CacheFault α) (m : Metrics)
    (e : CacheEvent) : Tally.count (m.countCache (eventOf use answer)).cacheEvents e =
      Tally.count m.cacheEvents e + if e = eventOf use answer then 1 else 0 :=
  Metrics.count_countCache m _ e

namespace Counted

variable {sources : List Source} {past : List Act} {m : Metrics}

theorem snoc (h : Counted sources past m) {a : Act} {m' : Metrics}
    (uses : ∀ e, Tally.count m'.cacheEvents e = Tally.count m.cacheEvents e + a.uses e)
    (gives : ∀ o, Samples.count m'.collections o = Samples.count m.collections o + a.gives o)
    (idle : a.gives .remote = 0 ∧ a.lost = 0)
    (same : m'.outcomes = m.outcomes ∧ m'.failures = m.failures) :
    Counted sources (past ++ [a]) m' where
  uses := fun e => by rw [uses, h.uses, total_snoc]
  gives := fun o => by rw [gives, h.gives, total_snoc]
  source := fun s => by
    rw [Metrics.sourceTotal, same.1, total_snoc, idle.1]
    exact h.source s
  balanced := by
    obtain ⟨http, decode, aggregate⟩ := h.balanced
    rw [total_snoc, idle.2]
    constructor
    · rw [same.2, http, Metrics.labelTotal, Metrics.labelTotal, Metrics.labelTotal,
        Metrics.labelTotal, same.1]
    · rw [same.2, decode, Metrics.labelTotal, Metrics.labelTotal, same.1]
    · rw [same.2, aggregate, Metrics.labelTotal, Metrics.labelTotal, same.1]
      rfl

theorem served (h : Counted sources past m) (e : Entry) (x : Decimal.Binary64) :
    Counted sources (past ++ [.served e]) ((m.countCache .hit).observeCollection .cache x) :=
  h.snoc (fun use => Metrics.count_countCache m .hit use)
    (fun o => Metrics.count_observeCollection (m.countCache .hit) .cache o x) ⟨rfl, rfl⟩ ⟨rfl, rfl⟩

theorem missed (h : Counted sources past m) (c : CaseId)
    (found : Except CacheFault (Option Entry)) :
    Counted sources (past ++ [.missed c found]) (missMetrics found m) := by
  cases found with
  | ok e =>
    exact h.snoc (fun use => Metrics.count_countCache m .miss use) (fun _ => rfl) ⟨rfl, rfl⟩
      ⟨rfl, rfl⟩
  | error f =>
    refine h.snoc ?_ (fun _ => rfl) ⟨rfl, rfl⟩ ⟨rfl, rfl⟩
    intro use
    rw [missMetrics, Metrics.count_countCache, Metrics.count_countCache, Act.uses]
    cases use <;> rfl

theorem dropped (h : Counted sources past m) (c : CaseId) (existed : Except CacheFault Bool) :
    Counted sources (past ++ [.dropped c existed])
      (m.countCache (eventOf .invalidate existed)) := by
  refine h.snoc ?_ (fun _ => rfl) ⟨rfl, rfl⟩ ⟨rfl, rfl⟩
  intro use
  rw [count_eventOf]
  cases existed <;> rfl

theorem renewed (h : Counted sources past m) (hn : sources.Nodup) {joined : List Task}
    (hj : (joined.map (·.source)).Nodup) (e : Entry) (kept : Except CacheFault Unit)
    (x : Decimal.Binary64) :
    Counted sources (past ++ [.renewed joined e kept])
      (((m.countGathering sources (Gathering.ofTasks joined)).observeCollection .remote
        x).countCache (eventOf .write kept)) where
  uses := by
    intro use
    rw [count_eventOf, total_snoc, ← h.uses]
    rw [show ∀ m : Metrics, (m.observeCollection .remote x).cacheEvents = m.cacheEvents from
      fun _ => rfl, (Metrics.kept_countGathering (Gathering.ofTasks joined) m sources).1]
    cases kept <;> rfl
  gives := by
    intro o
    rw [total_snoc, ← h.gives,
      ← (Metrics.kept_countGathering (Gathering.ofTasks joined) m sources).2]
    exact Metrics.count_observeCollection _ .remote o x
  source := by
    intro s
    have counted := Metrics.sourceTotal_countGathering (Gathering.ofTasks joined) m hn s
    rw [h.source s] at counted
    rw [total_snoc]
    refine Eq.trans ?_ (counted.trans ?_)
    · rfl
    · split <;> rfl
  balanced := by
    have counted := Metrics.balanced_countGathering (Gathering.ofTasks joined) h.balanced sources
    rw [(Gathering.tells_ofTasks hj).lost] at counted
    rw [total_snoc]
    exact ⟨counted.http, counted.decode, counted.aggregate⟩

end Counted

theorem nodup_inTime (s : Service) : (s.inTime.map (·.source)).Nodup :=
  (Collection.Joins.of_inTime s.budget s.tasks).nodup (Collection.nodup_tasks s.budget s.clients)

theorem lasting_counted (sources : List Source) :
    Lasting (fun _ => True) fun past s => s.sources = sources ∧ Counted sources past s.metrics where
  served := by
    intro past s c e h he
    obtain ⟨hs, hc⟩ := h
    rw [(s.look_of_served c he).2.2]
    exact ⟨hs, hc.served e _⟩
  missed := by
    intro past s c found h hf
    obtain ⟨hs, hc⟩ := h
    rw [(s.look_of_missed c hf).2.2.2]
    exact ⟨hs, hc.missed c found⟩
  renewed := by
    intro past s c h _
    obtain ⟨hs, hc⟩ := h
    have nodup : sources.Nodup := hs ▸ Client.nodup_sources s.clients
    rw [renewed_sources, renewed_metrics, hs]
    exact ⟨rfl, hc.renewed nodup s.nodup_inTime _ _ _⟩
  dropped := by
    intro past s c h
    exact ⟨h.1, h.2.dropped c (s.store.drop c).1⟩
  changed := by
    intro past s x h _
    obtain ⟨hs, hc⟩ := h
    refine ⟨(s.sources_change x).trans hs, ?_⟩
    cases x <;> exact hc

/-! ### Acts of a run -/

theorem total_eq_countP (p : Act → Bool) (acts : List Act) :
    total (fun a => if p a then 1 else 0) acts = acts.countP p := by
  induction acts with
  | nil => rfl
  | cons a acts ih => rw [total_cons, ih, List.countP_cons, Nat.add_comm]

theorem total_add (f g : Act → Nat) (acts : List Act) :
    total (fun a => f a + g a) acts = total f acts + total g acts := by
  rw [total, total, total, List.sum_map_add]

theorem total_congr {f g : Act → Nat} (h : ∀ a, f a = g a) (acts : List Act) :
    total f acts = total g acts := by
  rw [funext h]

theorem total_gives_cache (acts : List Act) :
    total (Act.gives .cache) acts = total (Act.uses .hit) acts := by
  refine total_congr (fun a => ?_) acts
  rcases a with e | ⟨c, _ | _⟩ | ⟨joined, e, _ | _⟩ | ⟨c, _ | _⟩ <;> rfl

theorem total_write (acts : List Act) :
    total (Act.uses .write) acts + acts.countP Act.isUnkept = total (Act.gives .remote) acts := by
  rw [← total_eq_countP, ← total_add]
  refine total_congr (fun a => ?_) acts
  rcases a with e | ⟨c, _ | _⟩ | ⟨joined, e, _ | _⟩ | ⟨c, _ | _⟩ <;> rfl

theorem total_invalidate (acts : List Act) :
    total (Act.uses .invalidate) acts = acts.countP Act.isDropped := by
  rw [← total_eq_countP]
  refine total_congr (fun a => ?_) acts
  rcases a with e | ⟨c, _ | _⟩ | ⟨joined, e, _ | _⟩ | ⟨c, _ | _⟩ <;> rfl

theorem total_error (acts : List Act) : total (Act.uses .error) acts =
    acts.countP Act.isUnread + acts.countP Act.isUnkept + acts.countP Act.isUndropped := by
  rw [← total_eq_countP, ← total_eq_countP, ← total_eq_countP, ← total_add, ← total_add]
  refine total_congr (fun a => ?_) acts
  rcases a with e | ⟨c, _ | _⟩ | ⟨joined, e, _ | _⟩ | ⟨c, _ | _⟩ <;> rfl

def looks : Act → Nat := fun a => a.uses .hit + a.uses .miss

def timelines : Act → Nat := fun a => a.gives .cache + a.gives .remote

theorem looks_renewal (s : Service) (c : CaseId) : total looks (s.renewal c) = 0 := by
  rw [renewal]
  split
  next =>
    rw [renewAct]
    cases (s.store.keep s.storeClock (s.entryOf c s.merged)).1 <;> rfl
  next => rfl

theorem timelines_renewal (s : Service) (c : CaseId) : total timelines (s.renewal c) =
    if (answered (s.renew c) s).1.isTimeline then 1 else 0 := by
  rw [renewal, answered_renew]
  split <;> rfl

theorem looks_acts (s : Service) (x : Step) :
    total looks (s.acts x) = if x.mayBeServed then 1 else 0 := by
  cases x with
  | get forced c =>
    cases forced with
    | true => exact looks_renewal s c
    | false =>
      rcases s.lookAct_cases c with ⟨e, he⟩ | ⟨found, hf⟩
      · rw [acts_of_served s c he]
        rfl
      · rw [acts_of_missed s c hf, total_cons, looks_renewal]
        cases found <;> rfl
  | refresh c =>
    rw [acts, total_cons, looks_renewal, dropAct]
    cases (s.store.drop c).1 <;> rfl
  | invalidate c =>
    rw [acts, dropAct]
    cases (s.store.drop c).1 <;> rfl
  | change y => rfl

theorem timelines_acts (s : Service) (x : Step) :
    total timelines (s.acts x) = if (s.step x).1.isTimeline then 1 else 0 := by
  cases x with
  | get forced c =>
    cases forced with
    | true => exact timelines_renewal s c
    | false =>
      rcases s.lookAct_cases c with ⟨e, he⟩ | ⟨found, hf⟩
      · rw [acts_of_served s c he, step_of_served s c he]
        rfl
      · rw [acts_of_missed s c hf, step_of_missed s c hf, total_cons, timelines_renewal]
        exact Nat.zero_add _
  | refresh c =>
    rw [acts, step_refresh, total_cons, timelines_renewal]
    exact Nat.zero_add _
  | invalidate c => rfl
  | change y => rfl

theorem looks_history (s : Service) (xs : List Step) :
    total looks (s.history xs) = xs.countP Step.mayBeServed := by
  induction xs generalizing s with
  | nil => rfl
  | cons x xs ih => rw [history, total_append, looks_acts, ih, List.countP_cons, Nat.add_comm]

theorem timelines_history (s : Service) (xs : List Step) :
    total timelines (s.history xs) = (s.answers xs).countP Answer.isTimeline := by
  induction xs generalizing s with
  | nil => rfl
  | cons x xs ih =>
    rw [history, total_append, timelines_acts, ih, answers, List.countP_cons, Nat.add_comm]

theorem step_asks (s : Service) (x : Step) :
    ((if (s.step x).1.isTimeline then 1 else 0) + if (s.step x).1.isBroken then 1 else 0) =
      if x.asks then 1 else 0 := by
  have renewed : ∀ (s : Service) (c : CaseId),
      ((if (answered (s.renew c) s).1.isTimeline then 1 else 0) +
        if (answered (s.renew c) s).1.isBroken then 1 else 0) = 1 := by
    intro s c
    rw [answered_renew]
    split <;> rfl
  cases x with
  | get forced c =>
    cases forced with
    | true => exact renewed s c
    | false =>
      rcases s.lookAct_cases c with ⟨e, he⟩ | ⟨found, hf⟩
      · rw [step_of_served s c he]
        rfl
      · rw [step_of_missed s c hf]
        exact renewed _ c
  | refresh c =>
    rw [step_refresh]
    exact renewed _ c
  | invalidate c => rfl
  | change y => rfl

theorem answers_asks (s : Service) (xs : List Step) :
    (s.answers xs).countP Answer.isTimeline + (s.answers xs).countP Answer.isBroken =
      xs.countP Step.asks := by
  induction xs generalizing s with
  | nil => rfl
  | cons x xs ih =>
    have first := step_asks s x
    have rest := ih (s.step x).2
    rw [answers, List.countP_cons, List.countP_cons, List.countP_cons]
    omega

/-! ### Counts of a run -/

/-- The counts agree with each other, and with the steps, the answers and the acts of a run. -/
structure Conserved (sources : List Source) (steps : List Step) (answers : List Answer)
    (acts : List Act) (m : Metrics) : Prop where
  looked : Tally.count m.cacheEvents .hit + Tally.count m.cacheEvents .miss =
    steps.countP Step.mayBeServed
  served : Samples.count m.collections .cache = Tally.count m.cacheEvents .hit
  given : Samples.count m.collections .cache + Samples.count m.collections .remote =
    answers.countP Answer.isTimeline
  asked : answers.countP Answer.isTimeline + answers.countP Answer.isBroken =
    steps.countP Step.asks
  written : Tally.count m.cacheEvents .write + acts.countP Act.isUnkept =
    Samples.count m.collections .remote
  dropped : Tally.count m.cacheEvents .invalidate = acts.countP Act.isDropped
  failed : Tally.count m.cacheEvents .error =
    acts.countP Act.isUnread + acts.countP Act.isUnkept + acts.countP Act.isUndropped
  collected : ∀ s ∈ sources, m.sourceTotal s = Samples.count m.collections .remote
  uncollected : ∀ s, s ∉ sources → m.sourceTotal s = 0
  http : Tally.count m.failures .http = m.labelTotal "timeout" + m.labelTotal "upstream_error"
  decode : Tally.count m.failures .decode = m.labelTotal "decode_error"
  aggregate : Tally.count m.failures .aggregate =
    m.labelTotal Metrics.panicLabel + total Act.lost acts

/-- Every run of a new service conserves the counts, over any store with anything in it. -/
theorem metrics_conserved (settings : TimelineSettings) (clients : List Client) (store : Store)
    (clock : Clock) (today : Instant) (xs : List Step) :
    let start := Service.new settings clients store clock today
    Conserved start.sources xs (start.answers xs) (start.history xs) (start.after xs).metrics := by
  intro start
  have counted : Counted start.sources (start.history xs) (start.after xs).metrics :=
    (@Lasting.run _ _ [] start (lasting_counted start.sources) xs (fun _ _ => trivial)
      ⟨rfl, counted_fresh start.sources⟩).2
  exact {
    looked := by rw [counted.uses, counted.uses, ← total_add, ← looks_history start]; rfl
    served := by rw [counted.gives, counted.uses, total_gives_cache]
    given := by rw [counted.gives, counted.gives, ← total_add, ← timelines_history]; rfl
    asked := start.answers_asks xs
    written := by rw [counted.uses, counted.gives, total_write]
    dropped := by rw [counted.uses, total_invalidate]
    failed := by rw [counted.uses, total_error]
    collected := fun s hs => by rw [counted.source, counted.gives, if_pos hs]
    uncollected := fun s hs => by rw [counted.source, if_neg hs]
    http := counted.balanced.http
    decode := counted.balanced.decode
    aggregate := counted.balanced.aggregate }

def vanishing : Service :=
  .new .default [.new .order .vanishes] (.memory .empty) ⟨.zero, 0⟩ .latest

theorem aggregate_exceeds_panics_vanishing :
    let m := (vanishing.after [.get true someCase]).metrics
    Tally.count m.failures .aggregate = 1 ∧ m.labelTotal Metrics.panicLabel = 0 := by
  decide +kernel

end Service
end Casebook
