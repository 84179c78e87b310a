import Casebook.Proofs.Service.FanOut
import Casebook.Proofs.Service.Freshness
import Casebook.Proofs.Settings.Checking

/-!
# Answers under checked settings

Under settings that pass the check a case is answered whatever the cache holds and however the clients
behave, as long as the clock of the machine shows the deadline of a collection: the time of each source
is not longer than that of all, and nothing else ends the work. Deadlines that were loaded from variables
are shown until the machine has been running for nearly as long as its clock counts. The check itself
lets longer ones pass.
-/

namespace Casebook

namespace Service

variable {s : Service} {c : CaseId}

theorem reaches_of_le {a b : Span} (le : a ≤ b) (h : s.reaches b = true) : s.reaches a = true := by
  have shorter : a.nanos ≤ b.nanos := le
  unfold reaches at h ⊢
  rw [decide_eq_true_eq] at h ⊢
  omega

/-- If no source has longer than all of them have, only one deadline has to be shown. -/
theorem showsDeadlines_eq (h : s.settings.perSourceTimeout ≤ s.settings.aggregationDeadline) :
    s.showsDeadlines = s.reaches s.settings.aggregationDeadline := by
  unfold showsDeadlines
  cases shown : s.reaches s.settings.aggregationDeadline with
  | false => rfl
  | true => rw [reaches_of_le h shown, Bool.and_self]

/-- A question that the cache does not answer is answered by a collection, or breaks down at a deadline. -/
theorem get_of_unserved {forced : Bool} (h : forced = true ∨ ∀ t, ¬s.Serves c t) :
    (s.showsDeadlines = true → ∃ t s', s.get forced c = .ok (t, s')) ∧
      (s.showsDeadlines = false → s.get forced c = .error .deadline) := by
  have renewing : ∀ s : Service, (s.showsDeadlines = true → ∃ t s', s.renew c = .ok (t, s')) ∧
      (s.showsDeadlines = false → s.renew c = .error .deadline) := by
    intro s
    rw [renew_eq]
    constructor
    · intro shown
      rw [if_pos shown]
      exact ⟨_, _, rfl⟩
    · intro hidden
      rw [hidden]
      rfl
  cases forced with
  | true => exact renewing s
  | false =>
    have unserved : ∀ t, ¬s.Serves c t := h.resolve_left Bool.false_ne_true
    rcases s.lookAct_cases c with ⟨e, he⟩ | ⟨found, hf⟩
    · exact absurd ((s.serves_iff c e.timeline).2 ⟨e, he, rfl⟩) (unserved e.timeline)
    · rw [get_of_missed s c hf, ← showsDeadlines_look s c]
      exact renewing (s.look c).2

/-- Either the cache answers or a collection has to. -/
theorem served_or_unserved (s : Service) (c : CaseId) (forced : Bool) :
    (forced = false ∧ ∃ t, s.Serves c t) ∨ (forced = true ∨ ∀ t, ¬s.Serves c t) := by
  cases forced with
  | true => exact .inr (.inl rfl)
  | false =>
    by_cases h : ∃ t, s.Serves c t
    · exact .inl ⟨rfl, h⟩
    · exact .inr (.inr (not_exists.1 h))

theorem get_of_serves {t : Timeline} (h : s.Serves c t) : ∃ t s', s.get false c = .ok (t, s') := by
  obtain ⟨s', given, -⟩ := h
  exact ⟨t, s', given⟩

theorem get_of_shown (shown : s.showsDeadlines = true) (c : CaseId) (forced : Bool) :
    ∃ t s', s.get forced c = .ok (t, s') := by
  rcases s.served_or_unserved c forced with ⟨rfl, t, ht⟩ | unserved
  · exact get_of_serves ht
  · exact (get_of_unserved unserved).1 shown

theorem get_ok_iff (s : Service) (c : CaseId) (forced : Bool) :
    (∃ t s', s.get forced c = .ok (t, s')) ↔
      (forced = false ∧ ∃ t, s.Serves c t) ∨ s.showsDeadlines = true := by
  constructor
  · rintro ⟨t, s', given⟩
    rcases s.served_or_unserved c forced with cached | unserved
    · exact .inl cached
    · refine .inr (Decidable.byContradiction fun hidden => ?_)
      rw [(get_of_unserved unserved).2 (Bool.eq_false_iff.2 hidden)] at given
      cases given
  · rintro (⟨rfl, t, ht⟩ | shown)
    · exact get_of_serves ht
    · exact get_of_shown shown c forced

theorem get_error_of_not_ok {forced : Bool} (h : ¬∃ t s', s.get forced c = .ok (t, s')) :
    s.get forced c = .error .deadline := by
  obtain ⟨uncached, hidden⟩ := not_or.1 (mt (get_ok_iff s c forced).2 h)
  have unserved := (s.served_or_unserved c forced).resolve_left uncached
  exact (get_of_unserved unserved).2 (Bool.eq_false_iff.2 hidden)

/-- What asking for a case comes to. -/
structure Answers (s : Service) (c : CaseId) : Prop where
  answered : ∀ forced, (∃ t s', s.get forced c = .ok (t, s')) ↔
    (forced = false ∧ ∃ t, s.Serves c t) ∨
      s.reaches s.settings.aggregationDeadline = true
  broken : ∀ forced, (¬∃ t s', s.get forced c = .ok (t, s')) → s.get forced c = .error .deadline
  /-- Settings from variables are enough, unless the clock of the machine is near its end. -/
  loaded : s.settings.IsLoaded → s.reaches (.ofMillis Decimal.max64) = true →
    ∀ forced, ∃ t s', s.get forced c = .ok (t, s')

theorem answers_of_checked (checked : s.settings.check = .ok ()) (c : CaseId) : s.Answers c := by
  have accepted := TimelineSettings.check_eq_ok_iff.1 checked
  have one_deadline := showsDeadlines_eq accepted.deadlines
  refine ⟨fun forced => ?_, fun forced => get_error_of_not_ok, fun isLoaded young forced => ?_⟩
  · rw [← one_deadline]
    exact get_ok_iff s c forced
  · have shown : s.showsDeadlines = true := by
      rw [one_deadline]
      exact reaches_of_le isLoaded.aggregationDeadline_le young
    exact get_of_shown shown c forced

/-- Three clients that answer late, break down and hang, and almost all the time that there is. -/
def patient : Service :=
  { trio with settings := { trio.settings with aggregationDeadline := .ofSeconds (1 <<< 63 - 1) } }

theorem answers_patient : patient.settings.check = .ok () ∧ patient.Answers someCase ∧
    ∃ t s', patient.get false someCase = .ok (t, s') := by
  have checked : patient.settings.check = .ok () := by decide +kernel
  have answers := answers_of_checked checked someCase
  have shown : patient.reaches patient.settings.aggregationDeadline = true := by decide
  exact ⟨checked, answers, (answers.answered false).2 (.inr shown)⟩

/-- The check lets deadlines pass at which a collection breaks down. -/
theorem unanswered_longest : ¬∀ (s : Service) (forced : Bool) (c : CaseId),
    s.settings.check = .ok () → ∃ t s', s.get forced c = .ok (t, s') := by
  intro all
  have checked : ({ trio.settings with aggregationDeadline := .longest } :
      TimelineSettings).check = .ok () := by decide +kernel
  obtain ⟨t, s', given⟩ :=
    all { trio with settings := { trio.settings with aggregationDeadline := .longest } } true someCase
      checked
  cases given

end Service
end Casebook
