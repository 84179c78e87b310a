import Casebook.Proofs.Service.Freshness

/-!
# How long work takes

A collection waits for the sources no longer than each of them has, in whole milliseconds, and nothing
else that a service does takes time. While the clock of the machine shows the deadlines, the wait is
added to the time of the service as it is.
-/

namespace Casebook

namespace Collection

theorem Behaviour.run_fst_le (b : Budget) (x : Behaviour) : (x.run b).1 ≤ b.source := by
  cases x with
  | answers o => exact Nat.zero_le _
  | answersAfter wait o =>
    rw [run]
    split
    next early => exact early
    next => exact Nat.le_refl _
  | hangs => exact Nat.le_refl _
  | breaks => exact Nat.zero_le _
  | vanishes => exact Nat.zero_le _

theorem foldl_max_le {n : Nat} {l : List Nat} (h : ∀ m ∈ l, m ≤ n) {k : Nat} (hk : k ≤ n) :
    l.foldl max k ≤ n := by
  induction l generalizing k with
  | nil => exact hk
  | cons m l ih =>
    obtain ⟨hm, rest⟩ := List.forall_mem_cons.1 h
    exact ih rest (Nat.max_le.2 ⟨hk, hm⟩)

theorem moment_le_source {b : Budget} {cs : List Client} {t : Task} (h : t ∈ tasks b cs) :
    t.moment ≤ b.source := by
  rw [tasks_eq] at h
  obtain ⟨c, -, rfl⟩ := List.mem_map.1 h
  exact c.behaviour.run_fst_le b

theorem wait_le_source (b : Budget) (cs : List Client) : wait b (tasks b cs) ≤ b.source := by
  rw [wait]
  split
  next =>
    refine foldl_max_le (fun m hm => ?_) (Nat.zero_le _)
    obtain ⟨t, ht, rfl⟩ := List.mem_map.1 hm
    exact moment_le_source ht
  next late =>
    -- A task that is late for all still ends in the time of its source.
    simp only [List.all_eq_true, decide_eq_true_eq, not_forall, Nat.not_lt] at late
    obtain ⟨t, ht, last⟩ := late
    exact Nat.le_trans last (moment_le_source ht)

end Collection

namespace Service

theorem source_le_total (s : Service) : s.budget.source ≤ s.budget.total :=
  Span.ceilMillis_le (Span.shorter_le_right _ _)

/-- A service goes on to be another one in a number of milliseconds, no more than each source has. -/
structure Waits (s s' : Service) (n : Nat) : Prop where
  elapsed : s'.elapsed.nanos = s.elapsed.nanos + n * 1000000
  most : n ≤ (s.settings.perSourceTimeout.shorter s.settings.aggregationDeadline).ceilMillis

section
variable {s s' t : Service} {n : Nat}

theorem Waits.congr (h : s.Waits s' n) (settings : t.settings = s.settings)
    (elapsed : t.elapsed = s.elapsed) : t.Waits s' n := by
  refine ⟨?_, ?_⟩
  · rw [elapsed]
    exact h.elapsed
  · rw [settings]
    exact h.most

theorem waits_none (h : s'.elapsed = s.elapsed) : s.Waits s' 0 :=
  ⟨by rw [h, Nat.zero_mul, Nat.add_zero], Nat.zero_le _⟩

theorem waits_renewed (shown : s.showsDeadlines = true) (c : CaseId) :
    s.Waits (s.renewed c) (Collection.wait s.budget s.tasks) := by
  have most : Collection.wait s.budget s.tasks ≤ s.budget.source :=
    Collection.wait_le_source s.budget s.clients
  refine ⟨?_, most⟩
  have room : Cache.Clock.limit + 1000000 ≤ Span.longest.nanos := by decide
  have total : s.budget.total * 1000000 < s.settings.aggregationDeadline.nanos + 1000000 :=
    Span.ceilMillis_mul_lt _
  have within := s.source_le_total
  simp only [showsDeadlines, reaches, Bool.and_eq_true, decide_eq_true_eq] at shown
  rw [renewed_elapsed]
  show min (_ + Collection.wait s.budget s.tasks * 1000000) _ = _
  omega

theorem renew_waits (shown : s.showsDeadlines = true) (c : CaseId) :
    ∃ t s' n, s.renew c = .ok (t, s') ∧ s.Waits s' n := by
  refine ⟨s.merged, s.renewed c, _, ?_, waits_renewed shown c⟩
  rw [renew_eq, if_pos shown]

theorem get_waits (shown : s.showsDeadlines = true) (c : CaseId) :
    ∃ t s' n, s.get false c = .ok (t, s') ∧ s.Waits s' n := by
  rcases s.lookAct_cases c with ⟨e, he⟩ | ⟨found, hf⟩
  · exact ⟨_, _, 0, get_of_served s c he, waits_none (s.look_elapsed c)⟩
  · rw [← showsDeadlines_look s c] at shown
    obtain ⟨t, s', n, given, waits⟩ := renew_waits shown c
    rw [← get_of_missed s c hf] at given
    exact ⟨t, s', n, given, waits.congr (s.look_settings c).symm (s.look_elapsed c).symm⟩

theorem refresh_waits (shown : s.showsDeadlines = true) (c : CaseId) :
    ∃ t s' n, s.refresh c = .ok (t, s') ∧ s.Waits s' n := by
  obtain ⟨t, s', n, given, waits⟩ := renew_waits (s := (s.invalidate c).2) shown c
  exact ⟨t, s', n, given, waits.congr rfl rfl⟩

end
end Service
end Casebook
