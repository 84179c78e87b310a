import Casebook.Proofs.Cache.Loading
import Casebook.Proofs.Service.Freshness
import Casebook.Proofs.Time.Expiry
import Casebook.Samples

/-!
# Healing of the cache

Whatever stands in the slot of a case, bytes that are no entry, the entry of another case or one that has
expired, asking for the case gives its own fresh entry or a new collection. In a store that takes what is
written, the answer then stands in the slot, and asking again is a hit. Only deadlines that the clock of
the machine does not show end the first question without an answer.
-/

namespace Casebook

open Cache (Slot keyOf)
open Collection (Client)
open Metrics (Tally)

/-! ### Kept for a second -/

theorem Entry.ttlSeconds_keep_pos_iff {c : CaseId} {t : Timeline} {now : Instant} {ttl : Span} :
    0 < (Entry.keep c t now ttl).ttlSeconds ↔ Span.ofSeconds 1 ≤ ttl := by
  show 0 < min (ttl.nanos / 1000000000) Decimal.max64 ↔ 1 * 1000000000 + 0 ≤ ttl.nanos
  have most : 0 < Decimal.max64 := by decide
  omega

namespace Service

/-! ### Hits -/

theorem lookAct_eq_served_iff_load {s : Service} {c : CaseId} {e : Entry} :
    s.lookAct c = .served e ↔
      (s.store.load s.storeClock c).1 = .ok (some e) ∧ e.isFreshAt s.today = true := by
  constructor
  · intro h
    obtain ⟨loaded, fresh, -⟩ := s.look_of_served c h
    exact ⟨loaded, fresh⟩
  · rintro ⟨loaded, fresh⟩
    rw [lookAct, loaded]
    exact if_pos fresh

/-- The slot of a case holds its entry, and the entry is fresh. -/
def Offers (s : Service) (c : CaseId) (e : Entry) : Prop :=
  ∃ b, (s.store.slot? (keyOf c)).bind (Slot.live? s.storeClock) = some b ∧
    Entry.ofBytes? b = some e ∧ e.caseId = c ∧ s.today < e.expiresAt

theorem lookAct_eq_served_iff_offers {s : Service} {c : CaseId} {e : Entry}
    (reached : s.store.allows .get = true) : s.lookAct c = .served e ↔ s.Offers c e := by
  rw [lookAct_eq_served_iff_load, Cache.Store.load_eq_entry_iff]
  constructor
  · rintro ⟨⟨b, found, read, same⟩, fresh⟩
    exact ⟨b, (Cache.Store.get_eq_ok_some_iff.1 found).2, read, same, of_decide_eq_true fresh⟩
  · rintro ⟨b, live, read, same, fresh⟩
    exact ⟨⟨b, Cache.Store.get_eq_ok_some_iff.2 ⟨reached, live⟩, read, same⟩, decide_eq_true fresh⟩

/-- A timeline comes from the cache and is counted as a hit; no client is called. -/
def Hits (s : Service) (c : CaseId) (t : Timeline) : Prop :=
  ∃ s', s.get false c = .ok (t, s') ∧ s'.clients = s.clients ∧ s'.collections = s.collections ∧
    Tally.count s'.metrics.cacheEvents .hit = Tally.count s.metrics.cacheEvents .hit + 1

theorem hits_of_served {s : Service} {c : CaseId} {e : Entry} (h : s.lookAct c = .served e) :
    s.Hits c e.timeline := by
  refine ⟨_, get_of_served s c h, s.look_clients c, ?_, ?_⟩
  · rw [collections_observe_cache, collections_look]
  · rw [(s.look_of_served c h).2.2]
    exact Metrics.count_countCache s.metrics .hit .hit

theorem hits_iff {s : Service} {c : CaseId} {t : Timeline} :
    s.Hits c t ↔ ∃ e, s.lookAct c = .served e ∧ e.timeline = t := by
  constructor
  · rintro ⟨s', given, uncalled, uncollected, -⟩
    exact (serves_iff s c t).1 ⟨s', given, uncalled, uncollected⟩
  · rintro ⟨e, he, rfl⟩
    exact hits_of_served he

/-! ### Asking again -/

/-- The store takes what would be collected for a case now, and that is fresh for some time. -/
structure Ready (s : Service) (c : CaseId) : Prop where
  accepts : s.store.Accepts s.storeClock (s.entryOf c s.merged)
  counted : s.storeClock.IsCounted
  early : s.today < Instant.latest
  complete : Span.ofSeconds 1 ≤ s.settings.completeTtl
  degraded : Span.ofSeconds 1 ≤ s.settings.degradedTtl

theorem ttlSeconds_entryOf_pos {s : Service} {c : CaseId} (h : s.Ready c) (t : Timeline) :
    0 < (s.entryOf c t).ttlSeconds := by
  refine Entry.ttlSeconds_keep_pos_iff.2 ?_
  cases t.degraded with
  | true => exact h.degraded
  | false => exact h.complete

theorem hits_renewed {s : Service} {c : CaseId} (h : s.Ready c) : (s.renewed c).Hits c s.merged := by
  have lasting := ttlSeconds_entryOf_pos h s.merged
  have fresh : (s.entryOf c s.merged).isFreshAt s.today = true :=
    Entry.isFreshAt_storedAt h.early lasting
  have loaded := Cache.Store.load_keep h.accepts h.counted lasting
  refine hits_iff.2 ⟨s.entryOf c s.merged, lookAct_eq_served_iff_load.2 ?_, rfl⟩
  rw [renewed_store, renewed_storeClock, renewed_today]
  exact ⟨loaded, fresh⟩

theorem hits_again_of_served {s : Service} {c : CaseId} {e : Entry} (h : s.lookAct c = .served e) :
    ((s.look c).2.observe .cache .zero).Hits c e.timeline := by
  obtain ⟨loaded, fresh⟩ := lookAct_eq_served_iff_load.1 h
  refine hits_iff.2 ⟨e, lookAct_eq_served_iff_load.2 ⟨?_, ?_⟩, rfl⟩
  · show ((s.look c).2.store.load (s.look c).2.storeClock c).1 = _
    rw [look_store, look_storeClock]
    exact Cache.Store.load_again loaded
  · show e.isFreshAt (s.look c).2.today = true
    rw [look_today]
    exact fresh

/-- Whatever the first answer was, the second one is a hit. -/
theorem hits_again {s s' : Service} {c : CaseId} {t : Timeline} (ready : (s.look c).2.Ready c)
    (given : s.get false c = .ok (t, s')) : s'.Hits c t := by
  rcases s.lookAct_cases c with ⟨e, he⟩ | ⟨found, hf⟩
  · rw [get_of_served s c he] at given
    cases given
    exact hits_again_of_served he
  · rw [get_of_missed s c hf, renew_eq] at given
    split at given
    next =>
      cases given
      exact hits_renewed ready
    next => cases given

/-! ### Any content -/

theorem get_of_unoffered {s : Service} {c : CaseId} (reached : s.store.allows .get = true)
    (unoffered : ∀ e, ¬s.Offers c e) : s.get false c = (s.look c).2.renew c := by
  rcases s.lookAct_cases c with ⟨e, he⟩ | ⟨found, hf⟩
  · exact absurd ((lookAct_eq_served_iff_offers reached).1 he) (unoffered e)
  · exact get_of_missed s c hf

/-- What is collected after looking is the merge of one outcome for every source. -/
theorem collects_merged {s : Service} {c : CaseId} (missed : s.get false c = (s.look c).2.renew c)
    (shown : s.showsDeadlines = true) : ∃ s',
      s.get false c = .ok (Timeline.merge (Client.outcomes s.budget s.clients), s') ∧
        s'.collections = s.collections + 1 ∧ CalledMore s.turns s.clients s'.clients := by
  have merged : (s.look c).2.merged = Timeline.merge (Client.outcomes s.budget s.clients) := by
    rw [merged_congr (s.look_settings c) (congrArg _ (s.look_clients c)), merged_eq]
  rw [← showsDeadlines_look s c] at shown
  have given : s.get false c = .ok ((s.look c).2.merged, (s.look c).2.renewed c) := by
    rw [missed, renew_eq, if_pos shown]
  obtain ⟨t, s', work, more, called⟩ := (collects_renew (s.look c).2 c shown).congr
    (s.look_settings c) (s.look_clients c) (s.collections_look c)
  rw [← missed, given] at work
  cases work
  exact ⟨_, merged ▸ given, more, called⟩

/-- A case is served the fresh entry in its slot, or else is collected once from all clients; either way
it is served the same timeline when it is asked for again. -/
structure Heals (s : Service) (c : CaseId) : Prop where
  served : ∀ t, s.Hits c t ↔ ∃ e, s.Offers c e ∧ e.timeline = t
  collected : (∀ e, ¬s.Offers c e) → s.showsDeadlines = true → ∃ s',
    s.get false c = .ok (Timeline.merge (Client.outcomes s.budget s.clients), s') ∧
      s'.collections = s.collections + 1 ∧ CalledMore s.turns s.clients s'.clients
  broken : (∀ e, ¬s.Offers c e) → s.showsDeadlines = false → s.get false c = .error .deadline
  again : ∀ t s', s.get false c = .ok (t, s') → s'.Hits c t

theorem heals_of_ready {s : Service} {c : CaseId} (ready : (s.look c).2.Ready c) : s.Heals c := by
  have reached : s.store.allows .get = true := by
    have asked := ready.accepts.asked
    rw [look_store, Cache.Store.allows_load] at asked
    exact asked
  exact {
    served := by
      intro t
      simp only [hits_iff, lookAct_eq_served_iff_offers reached]
    collected := fun unoffered shown => collects_merged (get_of_unoffered reached unoffered) shown
    broken := by
      intro unoffered hidden
      rw [← showsDeadlines_look s c] at hidden
      rw [get_of_unoffered reached unoffered, renew_eq, hidden]
      rfl
    again := fun _ _ given => hits_again ready given }

/-- A service over a mapped store that holds three bytes for a case, too few for a deadline. -/
def scribbled (deadline : Span) : Service :=
  .new { TimelineSettings.default with aggregationDeadline := deadline }
    [.new .order (.answers (.success []))] (Cache.Store.mappedWith [0x61, 0x62, 0x63]) ⟨.zero, 0⟩
    Samples.epoch

theorem heals_scribbled :
    ((scribbled (.ofSeconds 1)).look Cache.Store.oneLetter).2.Ready Cache.Store.oneLetter ∧
      (scribbled (.ofSeconds 1)).Heals Cache.Store.oneLetter := by
  have ready : ((scribbled (.ofSeconds 1)).look Cache.Store.oneLetter).2.Ready
      Cache.Store.oneLetter :=
    ⟨⟨by decide, by decide +kernel⟩, by decide, by decide, by decide, by decide⟩
  exact ⟨ready, heals_of_ready ready⟩

/-- Not every question is answered: some deadlines are beyond what the clock of the machine shows. -/
theorem unanswered_scribbled :
    ¬∀ (s : Service) (c : CaseId), (s.look c).2.Ready c → ∃ t s', s.get false c = .ok (t, s') := by
  intro all
  have ready : ((scribbled (.ofSeconds (1 <<< 63))).look Cache.Store.oneLetter).2.Ready
      Cache.Store.oneLetter :=
    ⟨⟨by decide, by decide +kernel⟩, by decide, by decide, by decide, by decide⟩
  obtain ⟨t, s', given⟩ := all _ _ ready
  have broken : (scribbled (.ofSeconds (1 <<< 63))).get false Cache.Store.oneLetter =
      .error .deadline := rfl
  rw [broken] at given
  cases given

end Service
end Casebook
