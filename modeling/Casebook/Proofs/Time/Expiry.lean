import Casebook.Proofs.Service.Run
import Casebook.Proofs.Timeline.Merging
import Casebook.Samples

/-!
# When entries expire

The seconds of an entry pass three ranges: numbers of sixty-four bits with a sign, spans that wall clocks
count in milliseconds, and the calendar. The calendar is the narrowest by far, so a count that one of the
first two refuses would not be reached either. Away from leap seconds the instant of expiry is then the
exact sum, or the last instant where there is no such sum.
-/

namespace Casebook

namespace Instant

theorem of?_eq_some_iff {seconds : Int} {nanos : Nat} {t : Instant} :
    of? seconds nanos = some t ↔ t.seconds = seconds ∧ t.nanos = nanos := by
  unfold of?
  split
  next time => rw [Option.some_inj, eq_comm, eq_iff]
  next none =>
    refine iff_of_false (by simp) ?_
    rintro ⟨rfl, rfl⟩
    exact none t.isTime

theorem of?_eq_none_iff {seconds : Int} {nanos : Nat} :
    of? seconds nanos = none ↔ ¬∃ t : Instant, t.seconds = seconds ∧ t.nanos = nanos := by
  simp only [← of?_eq_some_iff, Option.eq_none_iff_forall_ne_some, not_exists, ne_eq]

theorem not_lt {a b : Instant} : ¬a < b ↔ b ≤ a := by
  rw [lt_def, le_def]
  omega

theorem le_latest {t : Instant} (whole : t.isLeap = false) : t ≤ latest := by
  have last : t.seconds ≤ lastSecond := t.isTime.2.1
  have short : t.nanos < Span.perSecond := Nat.not_le.1 (of_decide_eq_false whole)
  have latestSeconds : latest.seconds = lastSecond := rfl
  have latestNanos : latest.nanos = Span.perSecond - 1 := rfl
  rw [le_def]
  omega

/-! ### Adding whole seconds -/

theorem plus?_ofSeconds {t : Instant} (whole : t.isLeap = false) (n : Nat) :
    t.plus? (Span.ofSeconds n) = of? (t.seconds + n) t.nanos := by
  have short : t.nanos < 1000000000 := Nat.not_le.1 (of_decide_eq_false whole)
  have carried : (t.nanos + (Span.ofSeconds n).nanos) / Span.perSecond = n := by
    show (t.nanos + (n * 1000000000 + 0)) / 1000000000 = n
    omega
  have kept : (t.nanos + (Span.ofSeconds n).nanos) % Span.perSecond = t.nanos := by
    show (t.nanos + (n * 1000000000 + 0)) % 1000000000 = t.nanos
    omega
  rw [plus?, if_neg (by simp [whole])]
  simp only [whole, Bool.false_eq_true, if_false, carried, kept]

/-- Out of a leap second or not, no whole second of a span is lost. -/
theorem seconds_plus?_ge {t t' : Instant} {s : Span} (h : t.plus? s = some t') :
    t.seconds + s.seconds ≤ t'.seconds := by
  unfold plus? at h
  split at h
  next within =>
    have same := (of?_eq_some_iff.1 h).1
    simp only [Bool.and_eq_true, decide_eq_true_eq] at within
    omega
  next =>
    have later := (of?_eq_some_iff.1 h).1
    have carried := Nat.div_le_div_right (c := Span.perSecond)
      (Nat.le_add_left s.nanos (if t.isLeap then t.nanos - Span.perSecond else t.nanos))
    simp only [Span.seconds] at later carried ⊢
    omega

theorem lt_plus? {t t' : Instant} {s : Span} (h : t.plus? s = some t')
    (second : Span.ofSeconds 1 ≤ s) : t < t' := by
  have later := seconds_plus?_ge h
  have lasting : (Span.ofSeconds 1).seconds ≤ s.seconds := Nat.div_le_div_right second
  rw [Span.seconds_ofSeconds] at lasting
  exact lt_def.2 (.inl (by omega))

/-- The calendar has fewer seconds than the longest span that wall clocks count. -/
theorem lastSecond_sub_firstSecond :
    lastSecond - firstSecond < (Service.longestShift.seconds : Int) := by decide

theorem plus?_eq_none_of_long (t : Instant) {n : Nat} (long : Service.longestShift.seconds ≤ n) :
    t.plus? (Span.ofSeconds n) = none := by
  rw [Option.eq_none_iff_forall_ne_some]
  intro t' reached
  have later := seconds_plus?_ge reached
  rw [Span.seconds_ofSeconds] at later
  have calendar := lastSecond_sub_firstSecond
  have first := t.isTime.1
  have last := t'.isTime.2.1
  omega

end Instant

/-! ### Three ranges -/

/-- Whole seconds as a span, if wall clocks count as far. -/
def Span.counted? (n : Nat) : Option Span :=
  if Service.longestShift < ofSeconds n then none else some (ofSeconds n)

theorem Span.counted?_eq_none {n : Nat} (h : counted? n = none) :
    Service.longestShift.seconds ≤ n := by
  unfold counted? at h
  split at h
  next long =>
    have long : Service.longestShift.nanos ≤ (ofSeconds n).nanos := Nat.le_of_lt long
    rw [← seconds_ofSeconds n]
    exact Nat.div_le_div_right long
  next => cases h

theorem Span.counted?_eq_some {n : Nat} {s : Span} (h : counted? n = some s) :
    s = ofSeconds n ∧ s.seconds ≤ Service.longestShift.seconds := by
  unfold counted? at h
  split at h
  next => cases h
  next short =>
    obtain rfl := Option.some.inj h
    have short : (ofSeconds n).nanos ≤ Service.longestShift.nanos := Nat.not_lt.1 short
    exact ⟨rfl, Nat.div_le_div_right short⟩

namespace Entry

variable {e e' : Entry}

/-- The seconds that an entry is kept for, if they fit in sixty-four bits with a sign. -/
def signedSeconds? (e : Entry) : Option Nat :=
  if e.ttlSeconds < 1 <<< 63 then some e.ttlSeconds else none

def countedTtl? (e : Entry) : Option Span :=
  e.signedSeconds?.bind Span.counted?

/-- The sum that an entry expires at, by way of the three ranges. -/
def expiry? (e : Entry) : Option Instant :=
  e.countedTtl?.bind e.storedAt.plus?

theorem countedTtl?_eq_some {s : Span} (h : e.countedTtl? = some s) :
    s = e.ttl ∧ s.seconds ≤ Service.longestShift.seconds := by
  obtain ⟨n, signed, counted⟩ := Option.bind_eq_some_iff.1 h
  obtain rfl : e.ttlSeconds = n := (Option.ite_some_none_eq_some.1 signed).2
  exact Span.counted?_eq_some counted

theorem countedTtl?_eq_none (h : e.countedTtl? = none) :
    Service.longestShift.seconds ≤ e.ttlSeconds := by
  by_cases small : e.ttlSeconds < 1 <<< 63
  · rw [countedTtl?, signedSeconds?, if_pos small, Option.bind_some] at h
    exact Span.counted?_eq_none h
  · have wide : Service.longestShift.seconds ≤ 1 <<< 63 := by decide
    exact Nat.le_trans wide (Nat.not_lt.1 small)

/-- What the first two ranges refuse is not reached by the third. -/
theorem expiry?_eq_plus? (e : Entry) : e.expiry? = e.storedAt.plus? e.ttl := by
  rw [expiry?]
  cases h : e.countedTtl? with
  | none => exact (Instant.plus?_eq_none_of_long e.storedAt (countedTtl?_eq_none h)).symm
  | some s =>
    obtain ⟨rfl, -⟩ := countedTtl?_eq_some h
    rfl

/-- No sum that is asked for leaves sixty-four bits. -/
theorem countedTtl?_sum_bounds {s : Span} (h : e.countedTtl? = some s) :
    -(1 <<< 63 : Nat) ≤ e.storedAt.seconds + s.seconds ∧
      e.storedAt.seconds + s.seconds < (1 <<< 63 : Nat) := by
  have short := (countedTtl?_eq_some h).2
  have first := e.storedAt.isTime.1
  have last := e.storedAt.isTime.2.1
  have calendar : -(1 <<< 63 : Nat) ≤ Instant.firstSecond ∧
      Instant.lastSecond + Service.longestShift.seconds < (1 <<< 63 : Nat) := by decide
  omega

/-! ### The instant of expiry -/

theorem expiresAt_eq_of? (whole : e.storedAt.isLeap = false) : e.expiresAt =
    (Instant.of? (e.storedAt.seconds + e.ttlSeconds) e.storedAt.nanos).getD Instant.latest := by
  rw [expiresAt, ttl, Instant.plus?_ofSeconds whole]

theorem expiresAt_le_latest (whole : e.storedAt.isLeap = false) : e.expiresAt ≤ Instant.latest := by
  rw [expiresAt_eq_of? whole]
  cases h : Instant.of? (e.storedAt.seconds + e.ttlSeconds) e.storedAt.nanos with
  | none => exact Instant.le_latest rfl
  | some t =>
    refine Instant.le_latest ?_
    show t.isLeap = false
    rw [Instant.isLeap, (Instant.of?_eq_some_iff.1 h).2]
    exact whole

theorem expiresAt_mono (whole : e.storedAt.isLeap = false) (same : e'.storedAt = e.storedAt)
    (longer : e.ttlSeconds ≤ e'.ttlSeconds) : e.expiresAt ≤ e'.expiresAt := by
  have whole' : e'.storedAt.isLeap = false := by rw [same, whole]
  rw [expiresAt_eq_of? whole', same]
  cases h' : Instant.of? (e.storedAt.seconds + e'.ttlSeconds) e.storedAt.nanos with
  | none => exact expiresAt_le_latest whole
  | some t' =>
    -- The later sum is an instant, so the earlier one lies between instants and is one too.
    obtain ⟨seconds', nanos'⟩ := Instant.of?_eq_some_iff.1 h'
    have first := e.storedAt.isTime.1
    have last := t'.isTime.2.1
    have between : Instant.IsTime (e.storedAt.seconds + e.ttlSeconds) e.storedAt.nanos :=
      ⟨by omega, by omega, e.storedAt.isTime.2.2.1,
        fun leap => absurd leap (of_decide_eq_false whole)⟩
    rw [expiresAt_eq_of? whole, Instant.of?, dif_pos between, Option.getD_some, Option.getD_some,
      Instant.le_def]
    simp only
    omega

/-- An entry that is kept for a second at least is fresh when it was stored, but for the last instant. -/
theorem isFreshAt_storedAt (early : e.storedAt < Instant.latest)
    (lasting : 0 < e.ttlSeconds) : e.isFreshAt e.storedAt = true := by
  have second : Span.ofSeconds 1 ≤ e.ttl := by
    show 1 * 1000000000 + 0 ≤ e.ttlSeconds * 1000000000 + 0
    omega
  refine decide_eq_true ?_
  rw [expiresAt]
  cases hp : e.storedAt.plus? e.ttl with
  | none => exact early
  | some t => exact Instant.lt_plus? hp second

/-- How an entry expires: no range is left without an instant, the sum is exact or else the last instant,
a longer span never ends earlier, and the entry is served before that instant and not from it on. -/
structure ExpiresExactly (e : Entry) : Prop where
  staged : e.expiresAt = e.expiry?.getD Instant.latest
  bounded : ∀ s, e.countedTtl? = some s → -(1 <<< 63 : Nat) ≤ e.storedAt.seconds + s.seconds ∧
    e.storedAt.seconds + s.seconds < (1 <<< 63 : Nat)
  sum : ∀ t : Instant, t.seconds = e.storedAt.seconds + e.ttlSeconds →
    t.nanos = e.storedAt.nanos → e.expiresAt = t
  saturated : (¬∃ t : Instant, t.seconds = e.storedAt.seconds + e.ttlSeconds ∧
    t.nanos = e.storedAt.nanos) → e.expiresAt = Instant.latest
  monotone : ∀ e' : Entry, e'.storedAt = e.storedAt → e.ttlSeconds ≤ e'.ttlSeconds →
    e.expiresAt ≤ e'.expiresAt
  fresh_when_stored : 0 < e.ttlSeconds → e.storedAt < Instant.latest →
    e.isFreshAt e.storedAt = true
  fresh_before : ∀ now, now < e.expiresAt → e.isFreshAt now = true
  stale_from : ∀ now, e.expiresAt ≤ now → e.isFreshAt now = false

theorem expiresExactly_of_whole (whole : e.storedAt.isLeap = false) : e.ExpiresExactly where
  staged := by rw [expiry?_eq_plus?, expiresAt]
  bounded := fun s h => countedTtl?_sum_bounds h
  sum := by
    intro t seconds nanos
    rw [expiresAt_eq_of? whole, Instant.of?_eq_some_iff.2 ⟨seconds, nanos⟩, Option.getD_some]
  saturated := by
    intro beyond
    rw [expiresAt_eq_of? whole, Instant.of?_eq_none_iff.2 beyond, Option.getD_none]
  monotone := fun e' same longer => expiresAt_mono whole same longer
  fresh_when_stored := fun lasting early => isFreshAt_storedAt early lasting
  fresh_before := fun now early => decide_eq_true early
  stale_from := fun now late => decide_eq_false fun early => Instant.not_lt.2 late early

/-- Kept from the start of 2024 on for as many seconds as sixty-four bits hold. -/
theorem expiresExactly_longest :
    (keep someCase .empty Samples.epoch .longest).storedAt.isLeap = false ∧
      (keep someCase .empty Samples.epoch .longest).ttlSeconds = Decimal.max64 ∧
      (keep someCase .empty Samples.epoch .longest).ExpiresExactly :=
  ⟨by decide, by decide, expiresExactly_of_whole (by decide)⟩

end Entry
end Casebook
