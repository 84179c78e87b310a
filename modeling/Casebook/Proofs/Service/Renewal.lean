import Casebook.Proofs.Service.Freshness
import Casebook.Proofs.Service.Isolation

/-!
# Refreshing through a failing cache

A refresh asks the sources and never the cache. Of its two calls of the store each may fail: what is left
for the case is the new entry if that was written, nothing if the old one was at least dropped, and the
old one only if both calls failed. So whatever a case is served after a refresh that left no old entry
was collected by the refresh or since.
-/

namespace Casebook

open Cache (Clock Slot Store keyOf)
open Collection (Client)

namespace Service

/-! ### What a refresh leaves -/

/-- The store call by which a refresh keeps a timeline: it follows the one that drops the old one. -/
def rewrite (s : Service) (c : CaseId) (t : Timeline) : Store.Answered Unit :=
  (s.store.drop c).2.keep s.storeClock (s.entryOf c t)

theorem refresh_eq (s : Service) (c : CaseId) : s.refresh c =
    if s.showsDeadlines then .ok (s.merged, (s.invalidate c).2.renewed c) else .error .deadline :=
  (s.invalidate c).2.renew_eq c

theorem store_refreshed (s : Service) (c : CaseId) :
    ((s.invalidate c).2.renewed c).store = (s.rewrite c s.merged).2 := by
  rw [renewed_store]
  rfl

section
variable {s : Service} {c : CaseId} {t : Timeline}

theorem slot?_rewrite_of_ne {key : String} (ne : key ≠ keyOf c) :
    (s.rewrite c t).2.slot? key = s.store.slot? key := by
  have kept : (s.rewrite c t).2.slot? key = (s.store.drop c).2.slot? key :=
    Store.slot?_set_of_ne key ne
  exact kept.trans (slot?_invalidate_of_ne ne)

theorem slot?_rewrite_of_unwritten {f : CacheFault} {existed : Bool}
    (unwritten : (s.rewrite c t).1 = .error f) (dropped : (s.store.drop c).1 = .ok existed) :
    (s.rewrite c t).2.slot? (keyOf c) = none := by
  have left : (s.rewrite c t).2.slot? (keyOf c) = (s.store.drop c).2.slot? (keyOf c) :=
    Store.slot?_set_of_error unwritten (keyOf c)
  have gone : (s.store.drop c).2.slot? (keyOf c) = none := by
    rw [Store.drop, Store.slot?_delete dropped, if_pos rfl]
  exact left.trans gone

theorem slot?_rewrite_of_both_failed {f g : CacheFault}
    (unwritten : (s.rewrite c t).1 = .error f) (undropped : (s.store.drop c).1 = .error g) :
    (s.rewrite c t).2.slot? (keyOf c) = s.store.slot? (keyOf c) := by
  have left : (s.rewrite c t).2.slot? (keyOf c) = (s.store.drop c).2.slot? (keyOf c) :=
    Store.slot?_set_of_error unwritten (keyOf c)
  exact left.trans (Store.slot?_delete_of_error undropped (keyOf c))

end

/-! ### Entries since a refresh -/

/-- A timeline was kept for a case by one of some acts. -/
def KeptIn (e : Entry) (past : List Act) : Prop := ∃ joined, Act.renewed joined e (.ok ()) ∈ past

/-- What stands in the slot of a case is an entry that is known or was kept by one of the acts. -/
def Descends (c : CaseId) (known : Entry → Prop) (past : List Act) (s : Service) : Prop :=
  ∀ x, s.store.slot? (keyOf c) = some x →
    ∃ e clock, (known e ∨ KeptIn e past) ∧ x.Keeps clock e.toBytes e.ttl

section
variable {c : CaseId} {known : Entry → Prop} {past : List Act} {s s' : Service}

theorem KeptIn.more {e : Entry} (h : KeptIn e past) (a : Act) : KeptIn e (past ++ [a]) := by
  obtain ⟨joined, hj⟩ := h
  exact ⟨joined, List.mem_append_left _ hj⟩

/-- Acts that leave the slot as it was, or empty it. -/
theorem Descends.idle (h : Descends c known past s) (a : Act)
    (left : s'.store.slot? (keyOf c) = s.store.slot? (keyOf c) ∨ s'.store.slot? (keyOf c) = none) :
    Descends c known (past ++ [a]) s' := by
  intro x hx
  rcases left with same | gone
  · rw [same] at hx
    obtain ⟨e, clock, since, keeps⟩ := h x hx
    exact ⟨e, clock, since.imp_right fun kept => kept.more a, keeps⟩
  · rw [gone] at hx
    cases hx

theorem lasting_descends (c : CaseId) (known : Entry → Prop) :
    Lasting (fun _ => True) (Descends c known) where
  served := by
    intro past s c' e h _
    refine h.idle _ ?_
    show (s.look c').2.store.slot? (keyOf c) = _ ∨ (s.look c').2.store.slot? (keyOf c) = none
    rw [look_store]
    exact (s.store.emptied_load s.storeClock (keyOf c) c').imp_right fun emptied => emptied.2
  missed := by
    intro past s c' found h _
    refine h.idle _ ?_
    rw [look_store]
    exact (s.store.emptied_load s.storeClock (keyOf c) c').imp_right fun emptied => emptied.2
  renewed := by
    intro past s c' h _
    have store := s.renewed_store c'
    cases kept : (s.store.keep s.storeClock (s.entryOf c' s.merged)).1 with
    | error f =>
      refine h.idle _ (.inl ?_)
      rw [store]
      exact Store.slot?_set_of_error kept (keyOf c)
    | ok _ =>
      -- Only what is kept for the case itself gets into its slot, and the act tells of it.
      by_cases same : c' = c
      · subst same
        obtain ⟨y, hy, keeps⟩ := Store.keeps_set kept
        have filled : (s.renewed c').store.slot? (keyOf c') = some y := by
          rw [store]
          exact hy
        intro x hx
        rw [filled] at hx
        cases hx
        refine ⟨s.entryOf c' s.merged, s.storeClock, .inr ⟨s.inTime, ?_⟩, keeps⟩
        rw [renewAct, kept]
        exact List.mem_append_right _ List.mem_cons_self
      · have other : keyOf c ≠ keyOf c' := fun hk => same (Cache.keyOf_injective hk).symm
        exact h.idle _ (.inl (slot?_renewed_of_ne other))
  dropped := by
    intro past s c' h
    have emptied : Slot.Emptied (keyOf c') (keyOf c) (s.store.slot? (keyOf c))
        ((s.invalidate c').2.store.slot? (keyOf c)) := s.store.emptied_delete (keyOf c') (keyOf c)
    exact h.idle _ (emptied.imp_right fun gone => gone.2)
  changed := by
    intro past s x h _
    have same : (s.change x).store.slot? (keyOf c) = s.store.slot? (keyOf c) := by
      cases x with
      | refusals calls => exact Store.slot?_setRefused s.store calls (keyOf c)
      | today now => rfl
      | storeClock now => rfl
      | script place behaviour => rfl
    intro y hy
    rw [same] at hy
    exact h y hy

theorem Descends.of_served (h : Descends c known past s) {e : Entry}
    (served : s.lookAct c = .served e) : known e ∨ KeptIn e past := by
  obtain ⟨loaded, -, -⟩ := s.look_of_served c served
  obtain ⟨b, given, read, -⟩ := Store.load_eq_entry_iff.1 loaded
  obtain ⟨x, slot, live⟩ := Option.bind_eq_some_iff.1 (Store.get_eq_ok_some_iff.1 given).2
  obtain ⟨e', clock, since, keeps⟩ := h x slot
  rw [keeps.eq_of_live? live, Entry.ofBytes?_toBytes] at read
  cases read
  exact since

theorem Descends.since (h : Descends c known [] s) {xs : List Step} {e : Entry}
    (served : (s.after xs).lookAct c = .served e) : known e ∨ KeptIn e (s.history xs) := by
  have run : Descends c known (s.history xs) (s.after xs) :=
    (lasting_descends c known).run (fun _ _ => trivial) h
  exact run.of_served served

end

/-! ### Refreshes -/

section
variable {s : Service} {c : CaseId}

theorem keeps_of_written (written : (s.rewrite c s.merged).1 = .ok ()) :
    ∃ x, ((s.invalidate c).2.renewed c).store.slot? (keyOf c) = some x ∧
      x.Keeps s.storeClock (s.entryOf c s.merged).toBytes (s.entryOf c s.merged).ttl := by
  rw [store_refreshed]
  exact Store.keeps_set written

theorem absent_of_unwritten {f : CacheFault} {existed : Bool}
    (unwritten : (s.rewrite c s.merged).1 = .error f) (dropped : (s.store.drop c).1 = .ok existed) :
    ((s.invalidate c).2.renewed c).store.slot? (keyOf c) = none := by
  rw [store_refreshed]
  exact slot?_rewrite_of_unwritten unwritten dropped

theorem served_since_refresh {xs : List Step} {e : Entry}
    (served : (((s.invalidate c).2.renewed c).after xs).lookAct c = .served e) :
    ((s.rewrite c s.merged).1 = .ok () ∧ e = s.entryOf c s.merged) ∨
      KeptIn e (((s.invalidate c).2.renewed c).history xs) ∨
        ∃ f g, (s.rewrite c s.merged).1 = .error f ∧ (s.store.drop c).1 = .error g := by
  -- The run starts from the new entry, from none or from the old one.
  cases written : (s.rewrite c s.merged).1 with
  | ok _ =>
    have init : Descends c (· = s.entryOf c s.merged) [] ((s.invalidate c).2.renewed c) := by
      intro x hx
      obtain ⟨y, hy, keeps⟩ := keeps_of_written written
      rw [hy] at hx
      cases hx
      exact ⟨_, s.storeClock, .inl rfl, keeps⟩
    exact (init.since served).imp (fun new => ⟨rfl, new⟩) .inl
  | error f =>
    cases dropped : (s.store.drop c).1 with
    | ok existed =>
      have init : Descends c (fun _ => False) [] ((s.invalidate c).2.renewed c) := by
        intro x hx
        rw [absent_of_unwritten written dropped] at hx
        cases hx
      exact .inr (.inl ((init.since served).resolve_left id))
    | error g => exact .inr (.inr ⟨f, g, rfl, rfl⟩)

end

/-- What a refresh of a case gives, and what it leaves in the store. -/
structure Refreshes (s : Service) (c : CaseId) (t : Timeline) (s' : Service) : Prop where
  merged : t = Timeline.merge (Client.outcomes s.budget s.clients)
  collected : s'.collections = s.collections + 1
  called : CalledMore s.turns s.clients s'.clients
  /-- The store was called twice, to drop and to keep, and never read. -/
  unread : s'.store = (s.rewrite c t).2
  kept : (s.rewrite c t).1 = .ok () → ∃ x, s'.store.slot? (keyOf c) = some x ∧
    x.Keeps s.storeClock (s.entryOf c t).toBytes (s.entryOf c t).ttl
  absent : ∀ f existed, (s.rewrite c t).1 = .error f → (s.store.drop c).1 = .ok existed →
    s'.store.slot? (keyOf c) = none
  old : ∀ f g, (s.rewrite c t).1 = .error f → (s.store.drop c).1 = .error g →
    s'.store.slot? (keyOf c) = s.store.slot? (keyOf c)
  others : ∀ key, key ≠ keyOf c → s'.store.slot? key = s.store.slot? key
  /-- However the service goes on, it serves the case what was collected by the refresh or since,
  unless both calls failed. -/
  later : ∀ xs e, (s'.after xs).lookAct c = .served e →
    ((s.rewrite c t).1 = .ok () ∧ e = s.entryOf c t) ∨ KeptIn e (s'.history xs) ∨
      ∃ f g, (s.rewrite c t).1 = .error f ∧ (s.store.drop c).1 = .error g

theorem refreshes_of_shown {s : Service} (shown : s.showsDeadlines = true) (c : CaseId) :
    ∃ t s', s.refresh c = .ok (t, s') ∧ s.Refreshes c t s' := by
  have given : s.refresh c = .ok (s.merged, (s.invalidate c).2.renewed c) := by
    rw [refresh_eq, if_pos shown]
  have store := s.store_refreshed c
  refine ⟨s.merged, (s.invalidate c).2.renewed c, given, ?_⟩
  exact {
    merged := s.merged_eq
    collected := (s.invalidate c).2.collections_renewed c
    called := (s.invalidate c).2.calledMore_renewed c
    unread := store
    kept := keeps_of_written
    absent := fun _ _ unwritten dropped => absent_of_unwritten unwritten dropped
    old := by
      intro f g unwritten undropped
      rw [store]
      exact slot?_rewrite_of_both_failed unwritten undropped
    others := by
      intro key ne
      rw [store]
      exact slot?_rewrite_of_ne ne
    later := fun _ _ served => served_since_refresh served }

/-- A service whose store cannot be written any more, and holds a value for a case. -/
def stale : Service :=
  { prompt with
    store := .refusing [.set] (Cache.Memory.empty.set ⟨.zero, 0⟩ (keyOf someCase) [0x78] (.ofSeconds 60)) }

theorem refreshes_stale : stale.showsDeadlines = true ∧ ∃ t s',
    stale.refresh someCase = .ok (t, s') ∧ stale.Refreshes someCase t s' ∧
      (stale.store.slot? (keyOf someCase)).isSome = true ∧ s'.store.slot? (keyOf someCase) = none := by
  have shown : stale.showsDeadlines = true := by decide
  obtain ⟨t, s', given, refreshes⟩ := refreshes_of_shown shown someCase
  have unwritten : (stale.rewrite someCase t).1 = .error (Store.refusal .set) := rfl
  have dropped : (stale.store.drop someCase).1 = .ok true := by decide
  have held : (stale.store.slot? (keyOf someCase)).isSome = true := by decide
  exact ⟨shown, t, s', given, refreshes, held, refreshes.absent _ _ unwritten dropped⟩

/-- Not every refresh calls its clients: one that has no time calls none. -/
theorem uncalled_refresh_hurried :
    ¬∀ (s : Service) (c : CaseId), s.showsDeadlines = true →
      ∃ t s', s.refresh c = .ok (t, s') ∧ CalledMore 1 s.clients s'.clients := by
  intro all
  have shown : hurried.showsDeadlines = true := by decide
  obtain ⟨t, s', given, called⟩ := all hurried someCase shown
  rw [refresh_eq, if_pos shown] at given
  cases given
  have uncalled : CalledMore 0 hurried.clients
      ((hurried.invalidate someCase).2.renewed someCase).clients :=
    (hurried.invalidate someCase).2.calledMore_renewed someCase
  obtain ⟨client, found, -, once⟩ := called.calls 0 _ rfl
  obtain ⟨client', found', -, never⟩ := uncalled.calls 0 _ rfl
  rw [found] at found'
  cases found'
  rw [once] at never
  exact absurd never (by decide)

end Service
end Casebook
