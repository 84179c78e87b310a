import Casebook.Proofs.Cache.InMemory
import Casebook.Proofs.Cache.Shelf
import Casebook.Proofs.Metrics.Counting
import Casebook.Proofs.Service.Run
import Casebook.Samples

/-!
# Freshness of served timelines

Over a store in memory for which no time passes, what a case is served from the cache is told by the
history of the run alone: the entry that was kept for the case last, unless it was dropped since, if it
is kept for at least a second and has not expired. Both deadlines of an entry, the one of the store and
the one by which freshness is judged, come to this. Everything else is collected.
-/

namespace Casebook

open Cache (Clock Held Memory Store keyOf)
open Collection (Client Gathering Task)
open Metrics (Samples)

namespace Service

/-! ### The latest entry -/

def succeed (c : CaseId) (e : Option Entry) : Act → Option Entry
  | .renewed _ e' (.ok _) => if e'.caseId = c then some e' else e
  | .dropped c' (.ok _) => if c' = c then none else e
  | _ => e

/-- The entry that was successfully kept last for a case, unless it was successfully dropped since. -/
def latest (c : CaseId) (past : List Act) : Option Entry := past.foldl (succeed c) none

theorem latest_snoc (c : CaseId) (past : List Act) (a : Act) :
    latest c (past ++ [a]) = succeed c (latest c past) a := by
  rw [latest, List.foldl_append]
  rfl

/-! ### What the store remembers -/

def heldOf (clock : Clock) (e : Entry) : Held :=
  ⟨e.toBytes, clock.deadline e.ttl⟩

/-- What is found for a case is its latest entry; one that is kept for no second may be gone. -/
structure Matches (clock : Clock) (entry : Option Entry) (found : Option Held) : Prop where
  isEntry : ∀ h, found = some h → ∃ e, entry = some e ∧ h = heldOf clock e
  isFound : ∀ e, entry = some e → 0 < e.ttlSeconds → found = some (heldOf clock e)

theorem matches_none (clock : Clock) : Matches clock none none :=
  ⟨fun _ hh => (by cases hh), fun _ he => (by cases he)⟩

theorem matches_some (clock : Clock) (e : Entry) : Matches clock (some e) (some (heldOf clock e)) :=
  ⟨fun _ hh => ⟨e, rfl, (Option.some.inj hh).symm⟩, fun _ he _ => by rw [Option.some.inj he]⟩

theorem ttl_pos_iff (e : Entry) : 0 < e.ttl.nanos ↔ 0 < e.ttlSeconds := by
  show 0 < e.ttlSeconds * 1000000000 + 0 ↔ 0 < e.ttlSeconds
  omega

theorem live?_of_matches {clock : Clock} {entry : Option Entry} {m : Memory} {key : String}
    (h : Matches clock entry (Keyed.find? key m.values)) {b : Bytes} :
    m.live? clock key = some b ↔ ∃ e, entry = some e ∧ 0 < e.ttlSeconds ∧ b = e.toBytes := by
  constructor
  · intro live
    obtain ⟨held, hheld, rfl⟩ := Option.map_eq_some_iff.1 live
    obtain ⟨found, early⟩ := Option.filter_eq_some_iff.1 hheld
    obtain ⟨e, he, rfl⟩ := h.isEntry held found
    have positive : 0 < e.ttl.nanos := Clock.lt_deadline_iff.1 (of_decide_eq_true early)
    refine ⟨e, he, (ttl_pos_iff e).1 positive, ?_⟩
    rw [heldOf]
  · rintro ⟨e, he, positive, rfl⟩
    have found := h.isFound e he positive
    have early : decide (clock.elapsed < (heldOf clock e).deadline) = true :=
      decide_eq_true (Clock.lt_deadline_iff.2 ((ttl_pos_iff e).2 positive))
    rw [Memory.live?, found, Option.filter_some, if_pos early, Option.map_some, heldOf]

/-- The store remembers exactly the latest entries. -/
structure Remembers (clock : Clock) (past : List Act) (s : Service) : Prop where
  still : s.storeClock = clock
  shelves : s.store.Shelves fun _ => True
  held : ∃ m, s.store.inside? = some m ∧
    ∀ c, Matches clock (latest c past) (Keyed.find? (keyOf c) m.values)

namespace Remembers

variable {clock : Clock} {past : List Act} {s : Service}

theorem idle (h : Remembers clock past s) {a : Act} (ha : ∀ c e, succeed c e a = e) :
    Remembers clock (past ++ [a]) s := by
  obtain ⟨m, hm, held⟩ := h.held
  refine ⟨h.still, h.shelves, m, hm, fun c => ?_⟩
  rw [latest_snoc, ha]
  exact held c

theorem load (h : Remembers clock past s) (c : CaseId) {s' : Service}
    (hc : s'.storeClock = s.storeClock)
    (hs : s'.store = (s.store.load s.storeClock c).2) : Remembers clock past s' := by
  obtain ⟨m, hm, held⟩ := h.held
  have inside := (Store.get_inside hm s.storeClock (keyOf c)).2
  rw [← (Store.load_cases h.shelves s.storeClock c).1, ← hs] at inside
  refine ⟨hc.trans h.still, ?_, _, inside, ?_⟩
  · rw [hs]
    exact Store.shelves_load h.shelves s.storeClock c
  · intro c'
    split
    · exact held c'
    · rw [h.still, Memory.find?_get]
      split
      next gone =>
        -- Only an entry that is kept for no second is taken away.
        refine ⟨fun _ hh => (by cases hh), ?_⟩
        intro e he positive
        have live := (live?_of_matches (held c')).2 ⟨e, he, positive, rfl⟩
        rw [gone.1, gone.2] at live
        cases live
      next => exact held c'

theorem keep (h : Remembers clock past s) (e : Entry) (joined : List Task) {s' : Service}
    (hc : s'.storeClock = s.storeClock)
    (hs : s'.store = (s.store.keep s.storeClock e).2) :
    Remembers clock (past ++ [.renewed joined e (s.store.keep s.storeClock e).1]) s' := by
  obtain ⟨m, hm, held⟩ := h.held
  have set := Store.set_inside hm s.storeClock (keyOf e.caseId) e.toBytes e.ttl
  have answer : (s.store.keep s.storeClock e).1 = _ := set.1
  have inside : (s.store.keep s.storeClock e).2.inside? = _ := set.2
  rw [← hs] at inside
  refine ⟨hc.trans h.still, ?_, _, inside, ?_⟩
  · rw [hs]
    exact Store.shelves_keep h.shelves s.storeClock trivial
  · intro c'
    rw [latest_snoc, answer]
    split
    next => exact held c'
    next =>
      rw [Memory.find?_set, succeed]
      by_cases same : e.caseId = c'
      · rw [if_pos same, if_pos (same ▸ rfl), h.still]
        exact matches_some clock e
      · have other : keyOf c' ≠ keyOf e.caseId := fun hk => same (Cache.keyOf_injective hk).symm
        rw [if_neg same, if_neg other]
        exact held c'

theorem drop (h : Remembers clock past s) (c : CaseId) {s' : Service}
    (hc : s'.storeClock = s.storeClock) (hs : s'.store = (s.store.drop c).2) :
    Remembers clock (past ++ [.dropped c (s.store.drop c).1]) s' := by
  obtain ⟨m, hm, held⟩ := h.held
  have delete := Store.delete_inside hm (keyOf c)
  have answer : (s.store.drop c).1 = _ := delete.1
  have inside : (s.store.drop c).2.inside? = _ := delete.2
  rw [← hs] at inside
  refine ⟨hc.trans h.still, ?_, _, inside, ?_⟩
  · rw [hs]
    exact Store.shelves_drop h.shelves c
  · intro c'
    rw [latest_snoc, answer]
    split
    next => exact held c'
    next =>
      rw [Memory.find?_delete, succeed]
      by_cases same : c = c'
      · rw [if_pos same, if_pos (same ▸ rfl)]
        exact matches_none clock
      · have other : keyOf c' ≠ keyOf c := fun hk => same (Cache.keyOf_injective hk).symm
        rw [if_neg same, if_neg other]
        exact held c'

theorem change (h : Remembers clock past s) {x : Change} (hx : ∀ now, x ≠ .storeClock now) :
    Remembers clock past (s.change x) := by
  obtain ⟨m, hm, held⟩ := h.held
  cases x with
  | today now => exact ⟨h.still, h.shelves, h.held⟩
  | refusals calls =>
    exact ⟨h.still, Store.shelves_setRefused h.shelves calls, m, Store.setRefused_inside hm calls,
      held⟩
  | storeClock now => exact absurd rfl (hx now)
  | script place behaviour => exact ⟨h.still, h.shelves, h.held⟩

end Remembers

theorem lasting_remembers (clock : Clock) :
    Lasting (fun x => ∀ now, x ≠ .storeClock now) (Remembers clock) where
  served := by
    intro past s c e h _
    have kept : Remembers clock past ((s.look c).2.observe .cache .zero) :=
      h.load c (s.look_storeClock c) (s.look_store c)
    exact kept.idle fun _ _ => rfl
  missed := by
    intro past s c found h _
    have kept : Remembers clock past (s.look c).2 :=
      h.load c (s.look_storeClock c) (s.look_store c)
    exact kept.idle fun _ _ => rfl
  renewed := by
    intro past s c h _
    exact h.keep (s.entryOf c s.merged) s.inTime (s.renewed_storeClock c) (s.renewed_store c)
  dropped := by
    intro past s c h
    exact h.drop c rfl rfl
  changed := fun h hx => h.change hx

theorem remembers_after {start : Service} {xs : List Step}
    (inMemory : start.store.inside?.isSome) (empty : start.store.IsEmpty)
    (still : ∀ now, .change (.storeClock now) ∉ xs) :
    Remembers start.storeClock (start.history xs) (start.after xs) := by
  have allowed : ∀ y, .change y ∈ xs → ∀ now, y ≠ .storeClock now := by
    intro y hy now he
    exact still now (he ▸ hy)
  have init : Remembers start.storeClock [] start := by
    obtain ⟨m, hm⟩ := Option.isSome_iff_exists.1 inMemory
    refine ⟨rfl, Store.shelves_of_isEmpty empty, m, hm, fun c => ?_⟩
    rw [Store.values_of_isEmpty hm empty]
    exact matches_none _
  exact (lasting_remembers start.storeClock).run allowed init

theorem lookAct_eq_served_iff {clock : Clock} {past : List Act} {s : Service}
    (h : Remembers clock past s) (c : CaseId) (e : Entry) :
    s.lookAct c = .served e ↔ (∃ found, (s.store.get s.storeClock (keyOf c)).1 = .ok found) ∧
      latest c past = some e ∧ 0 < e.ttlSeconds ∧ s.today < e.expiresAt := by
  obtain ⟨m, hm, held⟩ := h.held
  have asked := (Store.get_inside hm s.storeClock (keyOf c)).1
  rw [h.still] at asked ⊢
  have loaded := (Store.load_cases h.shelves clock c).2
  constructor
  · intro he
    obtain ⟨hload, fresh, -⟩ := s.look_of_served c he
    rw [h.still] at hload
    rcases loaded with ⟨f, -, hf⟩ | ⟨-, hn⟩ | ⟨e', -, -, hget, hl⟩
    · rw [hf] at hload
      cases hload
    · rw [hn] at hload
      cases hload
    · rw [hl] at hload
      cases hload
      rw [hget] at asked
      split at asked
      next => cases asked
      next =>
        obtain ⟨e'', he'', positive, hb⟩ := (live?_of_matches (held c)).1 (Except.ok.inj asked).symm
        rw [← Entry.toBytes_injective hb] at he'' positive
        exact ⟨⟨_, hget⟩, he'', positive, of_decide_eq_true fresh⟩
  · rintro ⟨⟨found, hfound⟩, he, positive, fresh⟩
    have live := (live?_of_matches (held c)).2 ⟨e, he, positive, rfl⟩
    have hget : (s.store.get clock (keyOf c)).1 = .ok (some e.toBytes) := by
      rw [asked] at hfound ⊢
      split at hfound
      next => cases hfound
      next readable => rw [if_neg readable, live]
    rcases loaded with ⟨f, hf, -⟩ | ⟨hn, -⟩ | ⟨e', -, -, hb, hl⟩
    · rw [hf] at hget
      cases hget
    · rw [hn] at hget
      cases hget
    · rw [hb] at hget
      have same : e' = e := Entry.toBytes_injective (Option.some.inj (Except.ok.inj hget))
      rw [lookAct, h.still, hl, same]
      exact if_pos (decide_eq_true fresh)

/-! ### Calls of clients -/

def collections (s : Service) : Nat := Samples.count s.metrics.collections .remote

/-- How often a collection calls each client that it calls: without any time it calls none. -/
def turns (s : Service) : Nat := if s.settings.aggregationDeadline = .zero then 0 else 1

/-- The first client of each source is called a number of times more and no other one is; they stay in
their places and behave as before. -/
structure CalledMore (n : Nat) (cs cs' : List Client) : Prop where
  length : cs'.length = cs.length
  calls : ∀ place c, cs[place]? = some c → ∃ c', cs'[place]? = some c' ∧ c'.script = c.script ∧
    c'.calls = c.calls + if Client.isFirst cs place c then n else 0

theorem calledMore_zero (cs : List Client) : CalledMore 0 cs cs where
  length := rfl
  calls := fun place c hc => ⟨c, hc, rfl, by rw [ite_self, Nat.add_zero]⟩

theorem calledMore_askAll (deadline : Span) (cs : List Client) :
    CalledMore 1 cs (Client.askAll deadline cs) where
  length := by
    have scripts := congrArg List.length (Client.map_script_askAll deadline cs)
    rw [List.length_map, List.length_map] at scripts
    exact scripts
  calls := by
    intro place c hc
    rw [Client.getElem?_askAll, hc, Option.map_some]
    by_cases first : Client.isFirst cs place c
    · rw [if_pos first, if_pos first]
      exact ⟨_, rfl, rfl, rfl⟩
    · rw [if_neg first, if_neg first]
      exact ⟨_, rfl, rfl, rfl⟩

theorem total_eq_zero_iff (s : Service) :
    s.budget.total = 0 ↔ s.settings.aggregationDeadline = .zero := by
  show s.settings.aggregationDeadline.ceilMillis = 0 ↔ _
  obtain ⟨nanos⟩ := s.settings.aggregationDeadline
  simp only [Span.ceilMillis, Span.zero, Span.mk.injEq]
  omega

theorem calledMore_collectedBy (s : Service) (joined : List Task) :
    CalledMore s.turns s.clients (s.collectedBy joined).clients := by
  rw [collectedBy, turns]
  by_cases none : s.budget.total = 0
  · rw [if_pos none, if_pos (s.total_eq_zero_iff.1 none)]
    exact calledMore_zero s.clients
  · rw [if_neg none, if_neg fun h => none (s.total_eq_zero_iff.2 h)]
    exact calledMore_askAll _ s.clients

def Collects (s : Service) (work : Except Breakdown (Timeline × Service)) : Prop :=
  ∃ t s', work = .ok (t, s') ∧ s'.collections = s.collections + 1 ∧
    CalledMore s.turns s.clients s'.clients

theorem collections_renewed (s : Service) (c : CaseId) :
    (s.renewed c).collections = s.collections + 1 := by
  rw [collections, renewed_metrics, collections,
    ← (Metrics.kept_countGathering (Gathering.ofTasks s.inTime) s.metrics s.sources).2]
  exact Metrics.count_observeCollection _ .remote .remote _

theorem calledMore_renewed (s : Service) (c : CaseId) :
    CalledMore s.turns s.clients (s.renewed c).clients := by
  rw [renewed, keep_eq]
  exact s.calledMore_collectedBy s.inTime

theorem collects_renew (s : Service) (c : CaseId) (shown : s.showsDeadlines = true) :
    s.Collects (s.renew c) := by
  refine ⟨s.merged, s.renewed c, ?_, s.collections_renewed c, s.calledMore_renewed c⟩
  rw [renew_eq, if_pos shown]

theorem Collects.congr {s s' : Service} {work : Except Breakdown (Timeline × Service)}
    (h : s'.Collects work) (settings : s'.settings = s.settings) (clients : s'.clients = s.clients)
    (collections : s'.collections = s.collections) : s.Collects work := by
  obtain ⟨t, left, hw, more, called⟩ := h
  rw [collections] at more
  rw [turns, settings, clients] at called
  exact ⟨t, left, hw, more, called⟩

theorem collections_look (s : Service) (c : CaseId) : (s.look c).2.collections = s.collections := by
  rcases s.lookAct_cases c with ⟨e, he⟩ | ⟨found, hf⟩
  · rw [(s.look_of_served c he).2.2]
    rfl
  · rw [(s.look_of_missed c hf).2.2.2]
    cases found <;> rfl

theorem collections_observe_cache (s : Service) (took : Span) :
    (s.observe .cache took).collections = s.collections :=
  Metrics.count_observeCollection s.metrics .cache .remote (secondsOf took)

theorem showsDeadlines_look (s : Service) (c : CaseId) :
    (s.look c).2.showsDeadlines = s.showsDeadlines := by
  rw [showsDeadlines, showsDeadlines, reaches, reaches, reaches, reaches, look_settings,
    look_storeClock, look_elapsed]

/-! ### Timelines of a run -/

/-- A timeline that may come from the cache does: no client is called and nothing is collected. -/
def Serves (s : Service) (c : CaseId) (t : Timeline) : Prop :=
  ∃ s', s.get false c = .ok (t, s') ∧ s'.clients = s.clients ∧ s'.collections = s.collections

theorem serves_iff (s : Service) (c : CaseId) (t : Timeline) :
    s.Serves c t ↔ ∃ e, s.lookAct c = .served e ∧ e.timeline = t := by
  constructor
  · rintro ⟨s', hget, -, same⟩
    rcases s.lookAct_cases c with ⟨e, he⟩ | ⟨found, hf⟩
    · rw [get_of_served s c he] at hget
      cases hget
      exact ⟨e, he, rfl⟩
    · rw [get_of_missed s c hf, renew_eq] at hget
      split at hget
      next =>
        cases hget
        rw [collections_renewed, collections_look] at same
        omega
      next => cases hget
  · rintro ⟨e, he, rfl⟩
    refine ⟨_, get_of_served s c he, s.look_clients c, ?_⟩
    rw [collections_observe_cache, collections_look]

/-- A case is served its entry if that can be read and is fresh, and its timeline is collected
otherwise, or when that is forced. -/
structure FreshAt (s : Service) (c : CaseId) (entry : Option Entry) : Prop where
  served : ∀ t, s.Serves c t ↔
    (∃ found, (s.store.get s.storeClock (keyOf c)).1 = .ok found) ∧
      ∃ e, entry = some e ∧ e.timeline = t ∧ 0 < e.ttlSeconds ∧ s.today < e.expiresAt
  collected : ∀ forced, forced = true ∨ (∀ t, ¬s.Serves c t) → s.showsDeadlines = true →
    s.Collects (s.get forced c)
  refreshed : s.showsDeadlines = true → s.Collects (s.refresh c)

/-- After any run from an empty store in memory for which no time passes. -/
theorem freshAt_after {start : Service} {xs : List Step} (inMemory : start.store.inside?.isSome)
    (empty : start.store.IsEmpty) (still : ∀ now, .change (.storeClock now) ∉ xs) (c : CaseId) :
    (start.after xs).FreshAt c (latest c (start.history xs)) where
  served := by
    intro t
    have remembers := remembers_after inMemory empty still
    rw [serves_iff]
    constructor
    · rintro ⟨e, he, ht⟩
      obtain ⟨readable, entry, positive, fresh⟩ := (lookAct_eq_served_iff remembers c e).1 he
      exact ⟨readable, e, entry, ht, positive, fresh⟩
    · rintro ⟨readable, e, entry, ht, positive, fresh⟩
      exact ⟨e, (lookAct_eq_served_iff remembers c e).2 ⟨readable, entry, positive, fresh⟩, ht⟩
  collected := by
    intro forced unserved shown
    cases forced with
    | true => exact collects_renew _ c shown
    | false =>
      have missed : ∀ t, ¬(start.after xs).Serves c t := unserved.resolve_left Bool.false_ne_true
      rcases (start.after xs).lookAct_cases c with ⟨e, he⟩ | ⟨found, hf⟩
      · exact absurd ((serves_iff _ c e.timeline).2 ⟨e, he, rfl⟩) (missed e.timeline)
      · rw [get_of_missed _ c hf]
        rw [← showsDeadlines_look _ c] at shown
        exact (collects_renew _ c shown).congr (look_settings _ c) (look_clients _ c)
          (collections_look _ c)
  refreshed := by
    intro shown
    exact (collects_renew ((start.after xs).invalidate c).2 c shown).congr rfl rfl rfl

def prompt : Service :=
  .new .default [.new .order (.answers (.success []))] (.memory .empty) ⟨.zero, 0⟩ Samples.epoch

theorem freshAt_after_prompt :
    let xs : List Step := [.get true someCase]
    let e : Entry := .keep someCase ⟨[], false, .ofList []⟩ Samples.epoch (.ofSeconds 300)
    latest someCase (prompt.history xs) = some e ∧
      (prompt.after xs).FreshAt someCase (latest someCase (prompt.history xs)) ∧
      (prompt.after xs).Serves someCase e.timeline := by
  intro xs e
  have still : ∀ now, Step.change (.storeClock now) ∉ xs := by
    intro now h
    cases List.mem_singleton.1 h
  have kept : latest someCase (prompt.history xs) = some e := by decide +kernel
  have empty : prompt.store.IsEmpty := rfl
  have fresh := freshAt_after rfl empty still someCase
  have early : (prompt.after xs).today < e.expiresAt := by decide +kernel
  exact ⟨kept, fresh, (fresh.served e.timeline).2 ⟨⟨_, rfl⟩, e, kept, rfl, by decide, early⟩⟩

def hurried : Service :=
  { prompt with settings := { TimelineSettings.default with aggregationDeadline := .zero } }

theorem uncalled_hurried : latest someCase (hurried.history []) = none ∧
    ∃ t s', hurried.get false someCase = .ok (t, s') ∧ s'.clients.map (·.calls) = [0] := by
  have missed : hurried.lookAct someCase = .missed someCase (.ok none) := rfl
  have shown : (hurried.look someCase).2.showsDeadlines = true := by decide
  refine ⟨rfl, (hurried.look someCase).2.merged, (hurried.look someCase).2.renewed someCase, ?_, ?_⟩
  · rw [get_of_missed hurried someCase missed, renew_eq, if_pos shown]
  · rw [renewed, keep_eq]
    decide

end Service
end Casebook
