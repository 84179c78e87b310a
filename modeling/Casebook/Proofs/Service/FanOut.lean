import Casebook.Proofs.Service.Run

/-!
# Agreement of collections

A collection under a budget of whole milliseconds gives each source that has a client one outcome, the
one that its script has in time, and the order in which tasks happen to be joined shows nowhere: not in
the outcomes, not in the timeline and not in the counts. The one thing that a collection needs is that
the clock of the machine shows its deadlines.
-/

namespace Casebook

open Collection (Behaviour Budget Client Gathering Joins Settled Task)

/-! ### Scripts and time -/

theorem Span.ceilMillis_ofMillis (n : Nat) : (Span.ofMillis n).ceilMillis = n := by
  simp only [Span.ofMillis, Span.ceilMillis]
  omega

theorem Span.shorter_ofMillis (p a : Nat) :
    (Span.ofMillis p).shorter (.ofMillis a) = .ofMillis (min p a) := by
  rw [Span.shorter]
  by_cases h : p ≤ a
  · have hs : Span.ofMillis p ≤ .ofMillis a := Nat.mul_le_mul_right _ h
    rw [if_pos hs, Nat.min_eq_left h]
  · have hs : ¬Span.ofMillis p ≤ .ofMillis a := fun hs => h (Nat.le_of_mul_le_mul_right hs (by decide))
    rw [if_neg hs, Nat.min_eq_right (Nat.le_of_not_le h)]

namespace Collection

/-- What a client that behaves in some way has given when a span for each source and a span for all
sources are over. -/
def Behaviour.verdict (perSource total : Span) : Behaviour → Outcome
  | .answers o => o
  | .answersAfter wait o => if wait < perSource.shorter total then o else .timeout
  | .hangs => .timeout
  | .breaks => .failed none
  | .vanishes => .timeout

/-- No client answers just when the time of its source is over. Where that is the time of all sources,
none does so by the timers either, which count whole milliseconds. -/
def Untied (p a : Nat) (cs : List Client) : Prop :=
  ∀ c ∈ Client.registered cs, ∀ wait o, c.behaviour = .answersAfter wait o →
    wait ≠ .ofMillis (min p a) ∧ (a ≤ p → wait.ceilMillis ≠ a)

theorem Budget.of_ofMillis (p a : Nat) :
    Budget.of (.ofMillis p) (.ofMillis a) = ⟨min p a, a⟩ := by
  rw [Budget.of, Span.shorter_ofMillis, Span.ceilMillis_ofMillis, Span.ceilMillis_ofMillis]

theorem Behaviour.outcome_eq_verdict {p a : Nat} (ha : 0 < a) {x : Behaviour}
    (untied : ∀ wait o, x = .answersAfter wait o →
      wait ≠ .ofMillis (min p a) ∧ (a ≤ p → wait.ceilMillis ≠ a)) :
    x.outcome ⟨min p a, a⟩ = x.verdict (.ofMillis p) (.ofMillis a) := by
  cases x with
  | answers o => exact if_pos ha
  | answersAfter wait o =>
    obtain ⟨apart, apartByTimers⟩ := untied wait o rfl
    have same : (wait.ceilMillis ≤ min p a ∧ wait.ceilMillis < a) ↔
        wait < (Span.ofMillis p).shorter (.ofMillis a) := by
      rw [Span.shorter_ofMillis]
      show _ ↔ wait.nanos < min p a * 1000000
      have hne : wait.nanos ≠ min p a * 1000000 := fun he => apart (congrArg Span.mk he)
      simp only [Span.ceilMillis] at apartByTimers ⊢
      omega
    simp only [outcome, verdict, same]
  | hangs => rfl
  | breaks => exact if_pos ha
  | vanishes => rfl

theorem settled_tasks {p a : Nat} {cs : List Client} (ha : 0 < a) (untied : Untied p a cs) :
    Settled ⟨min p a, a⟩ (tasks ⟨min p a, a⟩ cs) := by
  intro t hmem last
  obtain ⟨c, hc, rfl⟩ := List.mem_map.1 hmem
  have apart := untied c hc
  simp only at last ⊢
  cases hx : c.behaviour with
  | answers o =>
    rw [hx] at last
    exact absurd last (Nat.ne_of_lt ha)
  | answersAfter wait o =>
    obtain ⟨-, apartByTimers⟩ := apart wait o hx
    rw [hx, Behaviour.run] at last
    rw [Behaviour.run]
    by_cases hw : wait.ceilMillis ≤ min p a
    · -- An answer at the very end comes in the time of its source only if that ends there too.
      rw [if_pos hw] at last
      have atEnd : wait.ceilMillis = a := last
      have whole : a ≤ p := by omega
      exact absurd atEnd (apartByTimers whole)
    · rw [if_neg hw]
  | hangs => rfl
  | breaks =>
    rw [hx] at last
    exact absurd last (Nat.ne_of_lt ha)
  | vanishes =>
    rw [hx] at last
    exact absurd last (Nat.ne_of_lt ha)

end Collection

namespace Service

def outcomesBy (s : Service) (joined : List Task) : List (Source × Outcome) :=
  (Gathering.ofTasks joined).outcomesOf s.sources

/-- What a collection that joined some tasks comes to. -/
structure FansOut (s : Service) (joined : List Task) : Prop where
  keys : (s.outcomesBy joined).map (·.1) = s.sources
  once : s.sources.Nodup
  registered : ∀ source, source ∈ s.sources ↔ ∃ c ∈ s.clients, c.source = source
  outcome : ∀ c ∈ Client.registered s.clients,
    (s.outcomesBy joined).lookup c.source =
      some (c.behaviour.verdict s.settings.perSourceTimeout s.settings.aggregationDeadline)
  outcomes : ∀ other, Joins s.budget s.tasks other → s.outcomesBy other = s.outcomesBy joined
  counts : ∀ other, Joins s.budget s.tasks other → ∀ m : Metrics,
    m.countGathering s.sources (Gathering.ofTasks other) =
      m.countGathering s.sources (Gathering.ofTasks joined)
  same : s.collectBy joined = s.collect
  /-- The merged timeline is given exactly if the clock of the machine shows the deadlines. -/
  given : s.showsDeadlines = true →
    ∃ s', s.collect = .ok (Timeline.merge (s.outcomesBy joined), s')
  broken : s.showsDeadlines = false → s.collect = .error .deadline

theorem lookup_map_source {cs : List Client} (hn : (cs.map (·.source)).Nodup) {f : Client → Outcome}
    {c : Client} (hc : c ∈ cs) : (cs.map fun c => (c.source, f c)).lookup c.source = some (f c) := by
  induction cs with
  | nil => cases hc
  | cons d cs ih =>
    rw [List.map_cons, List.nodup_cons] at hn
    rw [List.map_cons, List.lookup_cons]
    rcases List.mem_cons.1 hc with rfl | hc
    · rw [beq_self_eq_true]
    · have hne : c.source ≠ d.source := fun he => hn.1 (he ▸ List.mem_map_of_mem hc)
      rw [beq_false_of_ne hne]
      exact ih hn.2 hc

/-- Whole milliseconds, some time for all sources and no ties: whatever the order of joining. -/
theorem fansOut_of_joins (s : Service) {p a : Nat} (ha : 0 < a)
    (perSource : s.settings.perSourceTimeout = .ofMillis p)
    (total : s.settings.aggregationDeadline = .ofMillis a)
    (untied : Collection.Untied p a s.clients)
    {joined : List Task} (h : Joins s.budget s.tasks joined) : s.FansOut joined := by
  have hb : s.budget = ⟨min p a, a⟩ := by
    rw [budget, perSource, total, Collection.Budget.of_ofMillis]
  have nodup : (s.tasks.map (·.source)).Nodup := Collection.nodup_tasks s.budget s.clients
  have settled : Settled s.budget s.tasks := by
    rw [tasks, hb]
    exact Collection.settled_tasks ha untied
  have agree : ∀ {js : List Task}, Joins s.budget s.tasks js →
      (Gathering.ofTasks js).Agree (Gathering.ofTasks s.inTime) :=
    fun hj => Collection.agree_of_joins hj nodup settled
  have inTime : ∀ {js : List Task}, Joins s.budget s.tasks js →
      s.outcomesBy js = s.outcomesBy s.inTime := fun hj => (agree hj).outcomesOf_eq s.sources
  have counted : ∀ {js : List Task}, Joins s.budget s.tasks js → ∀ m : Metrics,
      m.countGathering s.sources (Gathering.ofTasks js) =
        m.countGathering s.sources (Gathering.ofTasks s.inTime) :=
    fun hj m => (agree hj).countGathering_eq m s.sources
  have merged : s.mergedBy joined = s.mergedBy s.inTime := congrArg Timeline.merge (inTime h)
  have left : s.collectedBy joined = s.collectedBy s.inTime := by
    rw [collectedBy, collectedBy, counted h]
  have same : s.collectBy joined = s.collect := by
    rw [collect_eq, collectBy, collectBy, merged, left]
  exact {
    keys := by
      rw [outcomesBy, Gathering.outcomesOf, List.map_map]
      exact List.map_id _
    once := Client.nodup_sources s.clients
    registered := fun source => Client.mem_sources
    outcome := by
      intro c hc
      have table : s.outcomesBy joined = Client.outcomes s.budget s.clients :=
        (inTime h).trans (Collection.outcomesOf_inTime s.budget s.clients)
      rw [table, perSource, total, ← Behaviour.outcome_eq_verdict ha (untied c hc), ← hb]
      exact lookup_map_source (Client.nodup_sources s.clients) hc
    outcomes := fun other ho => (inTime ho).trans (inTime h).symm
    counts := fun other ho m => (counted ho m).trans (counted h m).symm
    same := same
    given := by
      intro shown
      rw [← same, collectBy, if_pos shown]
      exact ⟨_, rfl⟩
    broken := by
      intro hidden
      rw [collect_eq, collectBy, hidden]
      rfl }

def trio : Service :=
  .new { TimelineSettings.default with perSourceTimeout := .ofMillis 1000 }
    [.new .order (.answersAfter (.ofMillis 300) (.success [])), .new .payment .breaks,
      .new .fulfillment .hangs]
    (.memory .empty) ⟨.zero, 0⟩ .latest

theorem fansOut_trio : trio.FansOut
    [⟨.fulfillment, 1000, .gave .timeout⟩, ⟨.payment, 0, .broke⟩,
      ⟨.order, 300, .gave (.success [])⟩] := by
  have tasks : trio.tasks = [⟨.order, 300, .gave (.success [])⟩, ⟨.payment, 0, .broke⟩,
      ⟨.fulfillment, 1000, .gave .timeout⟩] := by decide
  have total : trio.budget.total = 5000 := by decide
  have joins : Joins trio.budget trio.tasks [⟨.fulfillment, 1000, .gave .timeout⟩,
      ⟨.payment, 0, .broke⟩, ⟨.order, 300, .gave (.success [])⟩] := by
    rw [tasks]
    refine @Joins.next _ [_, _] [] _ _ (by rw [total]; decide) ?_
    refine @Joins.next _ [_] [] _ _ (by rw [total]; decide) ?_
    refine @Joins.next _ [] [] _ _ (by rw [total]; decide) ?_
    exact .stop fun t ht => by cases ht
  have untied : Collection.Untied 1000 5000 trio.clients := by
    intro c hc wait o hx
    have clients : Client.registered trio.clients = trio.clients := by decide
    rw [clients] at hc
    simp only [trio, new, Client.new, List.mem_cons, List.not_mem_nil, or_false] at hc
    rcases hc with rfl | rfl | rfl
    · cases hx
      exact ⟨by decide, fun h => absurd h (by decide)⟩
    · cases hx
    · cases hx
  exact fansOut_of_joins trio (by decide) rfl rfl untied joins

def overdue : Service :=
  { trio with settings := { trio.settings with aggregationDeadline := .ofSeconds (1 <<< 63) } }

theorem collect_overdue : overdue.collect = .error .deadline := by
  have hidden : overdue.showsDeadlines = false := by decide
  rw [collect_eq, collectBy, hidden]
  rfl

end Service
end Casebook
