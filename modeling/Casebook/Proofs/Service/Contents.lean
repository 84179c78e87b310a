import Casebook.Proofs.Cache.Shelf
import Casebook.Proofs.Service.Run
import Casebook.Proofs.Timeline.Merging

/-!
# What the cache holds

Whatever every collection leaves to be kept, everything in a cache that starts empty is: each value is
the bytes of an entry under the key of its case, kept for as long as the settings say of a timeline like
it, and the timeline is one that the registered sources alone can give. Failing calls of the store, a
refresh that drops and cannot write among them, change which entries there are and nothing about them.
-/

namespace Casebook

open Cache (Store)
open Collection (Behaviour Budget Client)

/-! ### Clients that speak for their own source -/

namespace Collection

def Behaviour.reply? : Behaviour → Option Outcome
  | .answers o => some o
  | .answersAfter _ o => some o
  | _ => none

/-- Whether all events that are ever given are of one source. -/
def Behaviour.SpeaksFor (source : Source) (x : Behaviour) : Prop :=
  ∀ o, x.reply? = some o → ∀ v ∈ o.events, v.source = source

theorem Behaviour.source_of_mem_outcome {x : Behaviour} {source : Source} (h : x.SpeaksFor source)
    (b : Budget) {v : Event} (hv : v ∈ (x.outcome b).events) : v.source = source := by
  cases x with
  | answers o =>
    rw [outcome] at hv
    split at hv
    next => exact h o rfl v hv
    next => cases hv
  | answersAfter wait o =>
    rw [outcome] at hv
    split at hv
    next => exact h o rfl v hv
    next => cases hv
  | hangs => cases hv
  | breaks =>
    rw [outcome] at hv
    split at hv <;> cases hv
  | vanishes => cases hv

theorem Client.mem_of_mem_registered {cs : List Client} {c : Client}
    (h : c ∈ Client.registered cs) : c ∈ cs :=
  List.mem_of_find?_eq_some (Client.source_of_mem_registered h)

theorem Client.map_fst_outcomes (b : Budget) (cs : List Client) :
    (Client.outcomes b cs).map (·.1) = Client.sources cs := by
  rw [Client.outcomes, List.map_map]
  rfl

theorem Client.source_of_mem_outcomes {cs : List Client}
    (own : ∀ p ∈ cs.map Client.script, p.2.SpeaksFor p.1) {b : Budget} {source : Source} {o : Outcome}
    (h : (source, o) ∈ Client.outcomes b cs) {v : Event} (hv : v ∈ o.events) : v.source = source := by
  obtain ⟨c, hc, heq⟩ := List.mem_map.1 h
  cases heq
  have speaks := own c.script (List.mem_map_of_mem (Client.mem_of_mem_registered hc))
  exact Behaviour.source_of_mem_outcome speaks b hv

end Collection

namespace Service

/-! ### Whatever is left to be kept -/

/-- What is known of settings and scripts and kept by every change tells what every entry is. -/
theorem lasting_shelves {allowed : Change → Prop}
    {J : TimelineSettings → List (Source × Behaviour) → Prop} {Q : Entry → Prop}
    (left : ∀ (s : Service) (c : CaseId), J s.settings (s.clients.map Client.script) →
      Q (s.entryOf c s.merged))
    (changed : ∀ (s : Service) (x : Change), allowed x → J s.settings (s.clients.map Client.script) →
      J s.settings ((s.change x).clients.map Client.script)) :
    Lasting allowed fun _ s => J s.settings (s.clients.map Client.script) ∧ s.store.Shelves Q := by
  have looked : ∀ (s : Service) (c : CaseId),
      J s.settings (s.clients.map Client.script) ∧ s.store.Shelves Q →
      J (s.look c).2.settings ((s.look c).2.clients.map Client.script) ∧
        (s.look c).2.store.Shelves Q := by
    rintro s c ⟨known, kept⟩
    rw [look_settings, look_clients, look_store]
    exact ⟨known, Store.shelves_load kept s.storeClock c⟩
  exact {
    served := fun h _ => looked _ _ h
    missed := fun h _ => looked _ _ h
    renewed := by
      rintro past s c ⟨known, kept⟩ -
      rw [renewed_settings, renewed_scripts, renewed_store]
      exact ⟨known, Store.shelves_keep kept s.storeClock (left s c known)⟩
    dropped := fun h => ⟨h.1, Store.shelves_drop h.2 _⟩
    changed := by
      rintro past s x ⟨known, kept⟩ hx
      have after := changed s x hx known
      cases x with
      | today now => exact ⟨known, kept⟩
      | refusals calls => exact ⟨known, Store.shelves_setRefused kept calls⟩
      | storeClock now => exact ⟨known, kept⟩
      | script place behaviour => exact ⟨after, kept⟩ }

/-! ### Entries that fit -/

/-- What every entry is that a service keeps. -/
structure Fits (s : Service) (e : Entry) : Prop where
  ttl : e.ttlSeconds =
    (if e.timeline.degraded then s.settings.degradedTtl else s.settings.completeTtl).seconds
  degraded : e.timeline.degraded = true ↔ ∃ source, source ∈ e.timeline.missing
  missing : ∀ source ∈ e.timeline.missing, source ∈ s.sources
  sources : ∀ v ∈ e.timeline.events, v.source ∈ s.sources ∧ v.source ∉ e.timeline.missing
  ordered : e.timeline.events.Pairwise fun a b => Timeline.inOrder a b = true

/-- The settings are those of the start, and so are the sources; each client speaks for its own. -/
structure TrueTo (start : Service) (settings : TimelineSettings)
    (scripts : List (Source × Behaviour)) : Prop where
  settings : settings = start.settings
  sources : scripts.map (·.1) = start.clients.map (·.source)
  own : ∀ p ∈ scripts, p.2.SpeaksFor p.1

theorem seconds_le_of_le_longest {t : Span} (h : t ≤ .longest) : t.seconds ≤ Decimal.max64 := by
  have within : t.nanos ≤ Decimal.max64 * 1000000000 + (1000000000 - 1) := h
  show t.nanos / 1000000000 ≤ Decimal.max64
  omega

theorem fits_entryOf {start s : Service} (c : CaseId)
    (complete : start.settings.completeTtl ≤ .longest)
    (degraded : start.settings.degradedTtl ≤ .longest)
    (h : start.TrueTo s.settings (s.clients.map Client.script)) :
    start.Fits (s.entryOf c s.merged) := by
  have sameSources : Client.sources s.clients = start.sources := by
    have sources := h.sources
    rw [List.map_map] at sources
    exact Client.sources_congr sources
  have merged := s.merged_eq
  have own : ∀ source o, (source, o) ∈ Client.outcomes s.budget s.clients →
      ∀ v ∈ o.events, v.source = source :=
    fun source o ho v hv => Client.source_of_mem_outcomes h.own ho hv
  have registered : ∀ source, source ∈ (Client.outcomes s.budget s.clients).map (·.1) →
      source ∈ start.sources := by
    intro source hsource
    rw [Client.map_fst_outcomes, sameSources] at hsource
    exact hsource
  exact {
    ttl := by
      show min (s.settings.ttlFor s.merged.degraded).seconds Decimal.max64 =
        (start.settings.ttlFor s.merged.degraded).seconds
      rw [h.settings]
      refine Nat.min_eq_left (seconds_le_of_le_longest ?_)
      rw [TimelineSettings.ttlFor]
      split
      next => exact degraded
      next => exact complete
    degraded := by
      show s.merged.degraded = true ↔ ∃ source, source ∈ s.merged.missing
      rw [merged]
      exact Timeline.degraded_merge_iff _
    missing := by
      show ∀ source ∈ s.merged.missing, source ∈ start.sources
      rw [merged]
      exact fun source hs => registered source (Timeline.mem_of_mem_missing_merge hs)
    sources := by
      show ∀ v ∈ s.merged.events, v.source ∈ start.sources ∧ v.source ∉ s.merged.missing
      rw [merged]
      intro v hv
      obtain ⟨mem, here⟩ := Timeline.source_of_mem_events_merge own hv
      exact ⟨registered v.source mem, here⟩
    ordered := by
      show s.merged.events.Pairwise fun a b => Timeline.inOrder a b = true
      rw [merged]
      exact Timeline.pairwise_events_merge _ }

/-- Whether clients that speak for their own sources still do after a change. -/
def Suits (start : Service) : Change → Prop
  | .script place behaviour =>
    ∀ c, start.clients[place]? = some c → behaviour.SpeaksFor c.source
  | _ => True

theorem trueTo_change {start s : Service} {x : Change} (suits : start.Suits x)
    (h : start.TrueTo s.settings (s.clients.map Client.script)) :
    start.TrueTo s.settings ((s.change x).clients.map Client.script) := by
  cases x with
  | today now => exact h
  | refusals calls => exact h
  | storeClock now => exact h
  | script place behaviour =>
    have sources := h.sources
    rw [List.map_map] at sources
    refine ⟨h.settings, ?_, ?_⟩
    · rw [List.map_map]
      exact (Client.map_source_modify (fun c => { c with behaviour }) (fun _ => rfl) s.clients
        place).trans sources
    · intro p hp
      obtain ⟨c, hc, rfl⟩ := List.mem_map.1 hp
      obtain ⟨i, hi⟩ := List.mem_iff_getElem?.1 hc
      change (s.clients.modify place fun c => { c with behaviour })[i]? = some c at hi
      rw [List.getElem?_modify] at hi
      obtain ⟨d, hd, rfl⟩ := Option.map_eq_some_iff.1 hi
      by_cases here : place = i
      · -- The client at this place has the source that the one at the start has there.
        rw [if_pos here]
        have there := congrArg (·[i]?) sources
        simp only [List.getElem?_map, hd, Option.map_some] at there
        obtain ⟨c, hc, same⟩ := Option.map_eq_some_iff.1 there.symm
        have speaks := suits c (here ▸ hc)
        rw [same] at speaks
        exact speaks
      · rw [if_neg here]
        exact h.own _ (List.mem_map_of_mem (List.mem_of_getElem? hd))

theorem lasting_fits {start : Service} (complete : start.settings.completeTtl ≤ .longest)
    (degraded : start.settings.degradedTtl ≤ .longest) :
    Lasting start.Suits fun _ s => start.TrueTo s.settings (s.clients.map Client.script) ∧
      s.store.Shelves start.Fits :=
  lasting_shelves (fun _ c h => fits_entryOf c complete degraded h) fun _ _ => trueTo_change

/-- A store of entries that fit: each value is the bytes of one, and its key names the case. -/
def Stocks (start : Service) (store : Store) : Prop :=
  store.Holds fun key b => ∃ e : Entry, start.Fits e ∧ key = "support:timeline:" ++ e.caseId.text ∧
    b = e.toBytes

theorem stocks_of_shelves {start : Service} {store : Store} (h : store.Shelves start.Fits) :
    start.Stocks store := h

/-- After any run from an empty cache of clients that speak for their own sources. -/
theorem fits_after {start : Service} {xs : List Step} (empty : start.store.IsEmpty)
    (complete : start.settings.completeTtl ≤ .longest)
    (degraded : start.settings.degradedTtl ≤ .longest)
    (own : ∀ c ∈ start.clients, c.behaviour.SpeaksFor c.source)
    (suits : ∀ x, .change x ∈ xs → start.Suits x) :
    start.Stocks (start.after xs).store := by
  have init : start.TrueTo start.settings (start.clients.map Client.script) := by
    refine ⟨rfl, by rw [List.map_map]; rfl, ?_⟩
    intro p hp
    obtain ⟨c, hc, rfl⟩ := List.mem_map.1 hp
    exact own c hc
  have kept : start.store.Shelves start.Fits := Store.shelves_of_isEmpty empty
  exact stocks_of_shelves
    (@Lasting.run _ _ [] _ (lasting_fits complete degraded) xs suits ⟨init, kept⟩).2

def undeleting : Service :=
  .new .default
    [.new .order (.answers (.success [⟨.order, .latest, "order.placed", .empty⟩])),
      .new .payment .breaks]
    (.refusing [.delete] .empty) ⟨.zero, 0⟩ .latest

theorem fits_after_undeleting :
    let xs : List Step := [.refresh someCase, .change (.script 1 .hangs), .get true someCase]
    undeleting.store.IsEmpty ∧ (undeleting.after xs).store.stats.1.toOption = some ⟨0, 0, 1⟩ ∧
      undeleting.Stocks (undeleting.after xs).store := by
  intro xs
  have empty : undeleting.store.IsEmpty := rfl
  have own : ∀ c ∈ undeleting.clients, c.behaviour.SpeaksFor c.source := by
    intro c hc o ho v hv
    rcases List.mem_cons.1 hc with rfl | hc
    · cases ho
      rw [List.mem_singleton.1 hv]
      rfl
    · cases List.mem_singleton.1 hc
      cases ho
  have suits : ∀ x, Step.change x ∈ xs → undeleting.Suits x := by
    intro x hx
    simp only [xs, List.mem_cons, reduceCtorEq, false_or, or_false, Step.change.injEq,
      List.not_mem_nil] at hx
    rw [hx]
    intro c _ o ho
    cases ho
  refine ⟨empty, by decide +kernel, ?_⟩
  exact fits_after empty (by decide) (by decide) own suits

end Service
end Casebook
