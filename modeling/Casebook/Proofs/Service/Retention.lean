import Casebook.Proofs.Service.Healing
import Casebook.Proofs.Settings.Checking

/-!
# How long collected timelines stay

A timeline that was collected over a memory store is kept for the whole seconds of the span that the
settings give it. From one second on, the next question at the same time is a hit; for less than one the
entry has expired, in the store and by its own time, as soon as it is written. Settings that were loaded
from variables and pass the check give whole seconds, other settings that pass need not.
-/

namespace Casebook

open Cache (Memory Slot Store keyOf)

/-! ### Entries that are kept for no time -/

theorem Instant.plus?_zero (t : Instant) : t.plus? ⟨0⟩ = some t := by
  obtain ⟨seconds, nanos, isTime⟩ := t
  have kept : of? seconds nanos = some ⟨seconds, nanos, isTime⟩ := dif_pos isTime
  have short : nanos < 2 * Span.perSecond := isTime.2.2.1
  unfold plus?
  by_cases leap : Span.perSecond ≤ nanos
  · rw [if_pos (by simp [isLeap, leap, Span.seconds, Span.subsecond, short])]
    exact kept
  · have inSecond : nanos < Span.perSecond := Nat.not_le.1 leap
    have whole : (nanos + 0) / Span.perSecond = 0 := Nat.div_eq_of_lt inSecond
    have part : (nanos + 0) % Span.perSecond = nanos := Nat.mod_eq_of_lt inSecond
    simp only [isLeap, leap, decide_false, Bool.false_and, Bool.false_eq_true, if_false, whole, part,
      Int.natCast_zero, Int.add_zero]
    exact kept

namespace Entry

variable {e : Entry}

/-- But for the last instant, an entry is fresh when it is stored exactly if it is kept for a second. -/
theorem isFreshAt_storedAt_iff (early : e.storedAt < Instant.latest) :
    e.isFreshAt e.storedAt = true ↔ 0 < e.ttlSeconds := by
  refine ⟨fun fresh => ?_, isFreshAt_storedAt early⟩
  refine Nat.pos_of_ne_zero fun none => ?_
  have expired : e.expiresAt = e.storedAt := by
    have ttl : e.ttl = ⟨0⟩ := by rw [Entry.ttl, none]; rfl
    rw [expiresAt, ttl, Instant.plus?_zero, Option.getD_some]
  rw [isFreshAt, expired, decide_eq_true_eq, Instant.lt_def] at fresh
  omega

end Entry

namespace Service

variable {s s' : Service} {c : CaseId} {t : Timeline}

theorem ttlSeconds_entryOf_pos_iff :
    0 < (s.entryOf c t).ttlSeconds ↔ Span.ofSeconds 1 ≤ s.settings.ttlFor t.degraded :=
  Entry.ttlSeconds_keep_pos_iff

/-! ### What a collection leaves in memory -/

theorem slot?_renewed_of_memory {m : Memory} (inMemory : s.store = .memory m) (c : CaseId) :
    (s.renewed c).store.slot? (keyOf c) = some (.held ⟨(s.entryOf c s.merged).toBytes,
      s.storeClock.deadline (s.entryOf c s.merged).ttl⟩) := by
  rw [renewed_store, inMemory]
  show (Keyed.find? (keyOf c) (m.set _ (keyOf c) _ _).values).map Slot.held = _
  rw [Memory.find?_set, if_pos rfl, Option.map_some]

theorem allows_renewed_of_memory {m : Memory} (inMemory : s.store = .memory m) (c : CaseId) :
    (s.renewed c).store.allows .get = true := by
  rw [renewed_store, inMemory]
  rfl

theorem live?_renewed_iff {m : Memory} (inMemory : s.store = .memory m) {b : Bytes} :
    ((s.renewed c).store.slot? (keyOf c)).bind (Slot.live? (s.renewed c).storeClock) = some b ↔
      0 < (s.entryOf c s.merged).ttlSeconds ∧ (s.entryOf c s.merged).toBytes = b := by
  rw [slot?_renewed_of_memory inMemory, renewed_storeClock, Option.bind_some, Slot.live?_held_iff,
    ttl_pos_iff]

theorem lookAct_renewed_iff {m : Memory} (inMemory : s.store = .memory m)
    (early : s.today < Instant.latest) {e : Entry} : (s.renewed c).lookAct c = .served e ↔
      0 < (s.entryOf c s.merged).ttlSeconds ∧ s.entryOf c s.merged = e := by
  rw [lookAct_eq_served_iff_offers (allows_renewed_of_memory inMemory c), Offers, renewed_today]
  constructor
  · rintro ⟨b, live, read, -, -⟩
    obtain ⟨lasting, rfl⟩ := (live?_renewed_iff inMemory).1 live
    rw [Entry.ofBytes?_toBytes] at read
    exact ⟨lasting, Option.some.inj read⟩
  · rintro ⟨lasting, rfl⟩
    have fresh : (s.entryOf c s.merged).isFreshAt s.today = true :=
      (Entry.isFreshAt_storedAt_iff early).2 lasting
    exact ⟨_, (live?_renewed_iff inMemory).2 ⟨lasting, rfl⟩, Entry.ofBytes?_toBytes _, rfl,
      of_decide_eq_true fresh⟩

theorem hits_renewed_of_memory {m : Memory} (inMemory : s.store = .memory m)
    (early : s.today < Instant.latest)
    (second : Span.ofSeconds 1 ≤ s.settings.ttlFor s.merged.degraded) :
    (s.renewed c).Hits c s.merged :=
  hits_of_served ((lookAct_renewed_iff inMemory early).2 ⟨ttlSeconds_entryOf_pos_iff.2 second, rfl⟩)

theorem unserved_renewed {m : Memory} (inMemory : s.store = .memory m)
    (early : s.today < Instant.latest)
    (brief : s.settings.ttlFor s.merged.degraded < Span.ofSeconds 1) (t : Timeline) :
    ¬(s.renewed c).Serves c t := by
  intro served
  obtain ⟨e, he, -⟩ := (serves_iff _ c t).1 served
  obtain ⟨lasting, -⟩ := (lookAct_renewed_iff inMemory early).1 he
  exact absurd (ttlSeconds_entryOf_pos_iff.1 lasting) (Nat.not_le.2 brief)

/-! ### Collected answers -/

theorem load_memory (m : Memory) (now : Cache.Clock) (c : CaseId) :
    ∃ m', ((Store.memory m).load now c).2 = .memory m' := by
  rcases hg : ((Store.memory m).get now (keyOf c)).1 with f | _ | b
  · cases hg
  · rw [Store.load_of_none hg]
    exact ⟨_, rfl⟩
  · rw [Store.load_of_some hg]
    split
    · exact ⟨_, rfl⟩
    · exact ⟨_, rfl⟩

/-- A service with the same settings and times, whose store is in memory too. -/
structure Alongside (s s₀ : Service) : Prop where
  settings : s₀.settings = s.settings
  today : s₀.today = s.today
  inMemory : ∃ m, s₀.store = .memory m

/-- An answer that was collected is what a service renewed, perhaps after it had looked in the cache. -/
theorem renewed_of_collected {m : Memory} (inMemory : s.store = .memory m) {forced : Bool}
    (given : s.get forced c = .ok (t, s')) (collected : s'.collections = s.collections + 1) :
    ∃ s₀, s.Alongside s₀ ∧ t = s₀.merged ∧ s' = s₀.renewed c := by
  have renewing : ∀ s₀ : Service, s₀.renew c = .ok (t, s') → t = s₀.merged ∧ s' = s₀.renewed c := by
    intro s₀ renewed
    rw [renew_eq] at renewed
    split at renewed
    · cases renewed
      exact ⟨rfl, rfl⟩
    · cases renewed
  cases forced with
  | true => exact ⟨s, ⟨rfl, rfl, m, inMemory⟩, renewing s given⟩
  | false =>
    rcases s.lookAct_cases c with ⟨e, he⟩ | ⟨found, hf⟩
    · rw [get_of_served s c he] at given
      cases given
      rw [collections_observe_cache, collections_look] at collected
      omega
    · rw [get_of_missed s c hf] at given
      have alongside : s.Alongside (s.look c).2 := by
        refine ⟨s.look_settings c, s.look_today c, ?_⟩
        rw [look_store, inMemory]
        exact load_memory m s.storeClock c
      exact ⟨_, alongside, renewing _ given⟩

/-- What becomes of the answers to questions about a case that were collected. -/
structure Retains (s : Service) (c : CaseId) : Prop where
  /-- The entry is kept for some time exactly if the span that was chosen for it fills a second. -/
  lasting : ∀ t, 0 < (s.entryOf c t).ttlSeconds ↔
    Span.ofSeconds 1 ≤ s.settings.ttlFor t.degraded
  inStore : ∀ t, s.storeClock.elapsed < s.storeClock.deadline (s.entryOf c t).ttl ↔
    0 < (s.entryOf c t).ttlSeconds
  fresh : ∀ t, (s.entryOf c t).isFreshAt s.today = true ↔ 0 < (s.entryOf c t).ttlSeconds
  kept : ∀ forced t s', s.get forced c = .ok (t, s') → s'.collections = s.collections + 1 →
    Span.ofSeconds 1 ≤ s.settings.ttlFor t.degraded → s'.Hits c t
  lost : ∀ forced t s', s.get forced c = .ok (t, s') → s'.collections = s.collections + 1 →
    s.settings.ttlFor t.degraded < Span.ofSeconds 1 → ∀ t', ¬s'.Serves c t'
  /-- A degraded timeline is not kept for longer than a complete one. -/
  degraded : Span.ofSeconds 1 ≤ s.settings.degradedTtl →
    ∀ degraded, Span.ofSeconds 1 ≤ s.settings.ttlFor degraded
  loaded : s.settings.IsLoaded → ∀ degraded, Span.ofSeconds 1 ≤ s.settings.ttlFor degraded

theorem second_le_of_loaded {span : Span} (whole : ∃ n ≤ Decimal.max64, span = .ofSeconds n)
    (positive : 0 < span.nanos) : Span.ofSeconds 1 ≤ span := by
  obtain ⟨n, -, rfl⟩ := whole
  have some_time : 0 < n * 1000000000 + 0 := positive
  show 1 * 1000000000 + 0 ≤ n * 1000000000 + 0
  omega

/-- Over any content of a memory store, before the last instant. -/
theorem retains_of_checked {m : Memory} (inMemory : s.store = .memory m)
    (early : s.today < Instant.latest) (checked : s.settings.check = .ok ()) (c : CaseId) :
    s.Retains c := by
  have accepted := TimelineSettings.check_eq_ok_iff.1 checked
  exact {
    lasting := fun t => ttlSeconds_entryOf_pos_iff
    inStore := fun t => Cache.Clock.lt_deadline_iff.trans (ttl_pos_iff _)
    fresh := fun t => Entry.isFreshAt_storedAt_iff early
    kept := by
      intro forced t s' given collected second
      obtain ⟨s₀, ⟨settings, today, m₀, inMemory₀⟩, rfl, rfl⟩ :=
        renewed_of_collected inMemory given collected
      rw [← settings] at second
      rw [← today] at early
      exact hits_renewed_of_memory inMemory₀ early second
    lost := by
      intro forced t s' given collected brief
      obtain ⟨s₀, ⟨settings, today, m₀, inMemory₀⟩, rfl, rfl⟩ :=
        renewed_of_collected inMemory given collected
      rw [← settings] at brief
      rw [← today] at early
      exact unserved_renewed inMemory₀ early brief
    degraded := by
      intro second degraded
      cases degraded with
      | true => exact second
      | false => exact Nat.le_trans second accepted.ttls
    loaded := by
      intro isLoaded degraded
      cases degraded with
      | true => exact second_le_of_loaded isLoaded.degradedTtl accepted.degradedTtl
      | false => exact second_le_of_loaded isLoaded.completeTtl accepted.completeTtl }

/-- A service that keeps timelines for the same span, degraded or not, over a store that holds a value
which is no entry. -/
def keeping (ttl : Span) : Service :=
  { prompt with
    settings := { TimelineSettings.default with completeTtl := ttl, degradedTtl := ttl }
    store := .memory (Memory.empty.set ⟨.zero, 0⟩ (keyOf someCase) [0x78] (.ofSeconds 60))
    today := Samples.epoch }

theorem retains_keeping : (keeping (.ofSeconds 1)).settings.check = .ok () ∧
    (keeping (.ofSeconds 1)).today < Instant.latest ∧ (keeping (.ofSeconds 1)).Retains someCase ∧
    ∃ t s', (keeping (.ofSeconds 1)).get false someCase = .ok (t, s') ∧ s'.Hits someCase t := by
  have checked : (keeping (.ofSeconds 1)).settings.check = .ok () := by decide +kernel
  have early : (keeping (.ofSeconds 1)).today < Instant.latest := by decide
  have retains := retains_of_checked rfl early checked someCase
  have missed : (keeping (.ofSeconds 1)).lookAct someCase =
      .missed someCase (.error (.corrupt (keyOf someCase) .unreadable)) := rfl
  have given := get_of_missed _ someCase missed
  have shown : ((keeping (.ofSeconds 1)).look someCase).2.showsDeadlines = true := by decide
  rw [renew_eq, if_pos shown] at given
  have more := collections_renewed ((keeping (.ofSeconds 1)).look someCase).2 someCase
  rw [collections_look] at more
  have second : Span.ofSeconds 1 ≤ (keeping (.ofSeconds 1)).settings.degradedTtl := by decide
  have hits := retains.kept false _ _ given more (retains.degraded second _)
  exact ⟨checked, early, retains, _, _, given, hits⟩

/-- Not everything that the check accepts keeps timelines: half a second is no whole one. -/
theorem unserved_keeping : ¬∀ (s : Service) (m : Memory) (c : CaseId) (t : Timeline) (s' : Service),
    s.store = .memory m → s.today < Instant.latest → s.settings.check = .ok () →
      s.get true c = .ok (t, s') → s'.Serves c t := by
  intro all
  have checked : (keeping (.ofMillis 500)).settings.check = .ok () := by decide +kernel
  have early : (keeping (.ofMillis 500)).today < Instant.latest := by decide
  have shown : (keeping (.ofMillis 500)).showsDeadlines = true := by decide
  have given : (keeping (.ofMillis 500)).get true someCase =
      .ok ((keeping (.ofMillis 500)).merged, (keeping (.ofMillis 500)).renewed someCase) := by
    have renewed := renew_eq (keeping (.ofMillis 500)) someCase
    rw [if_pos shown] at renewed
    exact renewed
  have brief : ∀ degraded,
      (keeping (.ofMillis 500)).settings.ttlFor degraded < Span.ofSeconds 1 := by decide
  exact unserved_renewed rfl early (brief _) _ (all _ _ _ _ _ rfl early checked given)

end Service
end Casebook
