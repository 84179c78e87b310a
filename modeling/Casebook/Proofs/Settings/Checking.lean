import Casebook.Settings.Timeline

/-!
# Settings that pass the check

The check of settings accepts exactly those with spans that are not empty, in the right order, with web
bases and with a path that has a place for the case id. Settings that were loaded from variables count
whole seconds and milliseconds that fill sixty-four bits.
-/

namespace Casebook

theorem Decimal.le_of_readOnto {limit n m : Nat} {s : List Char} (within : n ≤ limit)
    (h : readOnto limit n s = .ok m) : m ≤ limit := by
  induction s generalizing n with
  | nil =>
    cases h
    exact within
  | cons c r ih =>
    rw [readOnto] at h
    split at h
    next => cases h
    next d _ =>
      split at h
      next next_le => exact ih next_le h
      next => cases h

theorem Decimal.le_of_read {limit n : Nat} {s : List Char} (h : read limit s = .ok n) : n ≤ limit := by
  unfold read at h
  split at h
  · cases h
  · cases h
  · exact le_of_readOnto (Nat.zero_le _) h
  · exact le_of_readOnto (Nat.zero_le _) h

namespace TimelineSettings

/-! ### What the check accepts -/

structure Accepted (s : TimelineSettings) : Prop where
  completeTtl : 0 < s.completeTtl.nanos
  degradedTtl : 0 < s.degradedTtl.nanos
  perSourceTimeout : 0 < s.perSourceTimeout.nanos
  aggregationDeadline : 0 < s.aggregationDeadline.nanos
  ttls : s.degradedTtl ≤ s.completeTtl
  deadlines : s.perSourceTimeout ≤ s.aggregationDeadline
  bases : ∀ source base, s.urls.get source = some base →
    base.startsWith "http://" = true ∨ base.startsWith "https://" = true
  root : s.path.startsWith "/" = true
  place : Text.occursIn Feed.placeholder.toList s.path.toList = true

theorem both_ok {a b : Except SettingFault Unit} :
    (a >>= fun _ => b) = .ok () ↔ a = .ok () ∧ b = .ok () := by
  cases a with
  | error f => exact ⟨(nomatch ·), fun h => (nomatch h.1)⟩
  | ok u => exact ⟨fun h => ⟨rfl, h⟩, fun h => h.2⟩

theorem each_ok {sources : List Source} {f : Source → Except SettingFault Unit} :
    (forIn sources PUnit.unit fun source _ => do
        f source
        pure (ForInStep.yield PUnit.unit)) = .ok () ↔ ∀ source ∈ sources, f source = .ok () := by
  induction sources with
  | nil => exact ⟨fun _ _ h => (nomatch h), fun _ => rfl⟩
  | cons source sources ih =>
    rw [List.forIn_cons, List.forall_mem_cons, ← ih]
    cases f source with
    | error fault => exact ⟨(nomatch ·), fun h => (nomatch h.1)⟩
    | ok u => exact ⟨fun h => ⟨rfl, h⟩, fun h => h.2⟩

theorem checkSpan_ok {name : String} {span : Span} :
    checkSpan name span = .ok () ↔ 0 < span.nanos := by
  unfold checkSpan
  split
  next empty => exact ⟨(nomatch ·), fun h => by omega⟩
  next some_time => exact ⟨fun _ => by omega, fun _ => rfl⟩

theorem checkOrder_ok {name otherName : String} {a b : Span} :
    checkOrder name a otherName b = .ok () ↔ a ≤ b := by
  unfold checkOrder
  split
  next less => exact ⟨(nomatch ·), fun h => absurd h (Nat.not_le.2 less)⟩
  next notLess => exact ⟨fun _ => Nat.not_lt.1 notLess, fun _ => rfl⟩

theorem checkBase_ok {s : TimelineSettings} {source : Source} : s.checkBase source = .ok () ↔
    ∀ base, s.urls.get source = some base →
      base.startsWith "http://" = true ∨ base.startsWith "https://" = true := by
  unfold checkBase
  cases s.urls.get source with
  | none => exact ⟨fun _ _ h => (nomatch h), fun _ => rfl⟩
  | some base =>
    simp only [Option.some.injEq, forall_eq', ← Bool.or_eq_true]
    split
    next web => exact ⟨fun _ => web, fun _ => rfl⟩
    next other => exact ⟨(nomatch ·), fun web => absurd web other⟩

theorem checkPath_ok {path : String} : checkPath path = .ok () ↔
    path.startsWith "/" = true ∧ Text.occursIn Feed.placeholder.toList path.toList = true := by
  unfold checkPath
  rw [← Bool.and_eq_true]
  split
  next fits => exact ⟨fun _ => fits, fun _ => rfl⟩
  next unfit => exact ⟨(nomatch ·), fun fits => absurd fits unfit⟩

theorem check_eq_ok_iff {s : TimelineSettings} : s.check = .ok () ↔ s.Accepted := by
  rw [check]
  simp only [both_ok, each_ok, checkSpan_ok, checkOrder_ok, checkBase_ok, checkPath_ok]
  constructor
  · rintro ⟨complete, degraded, perSource, total, ttls, deadlines, bases, root, place⟩
    exact ⟨complete, degraded, perSource, total, ttls, deadlines,
      fun source => bases source (Source.mem_all source), root, place⟩
  · intro h
    exact ⟨h.completeTtl, h.degradedTtl, h.perSourceTimeout, h.aggregationDeadline, h.ttls,
      h.deadlines, fun source _ => h.bases source, h.root, h.place⟩

/-! ### Loaded settings -/

theorem number?_le {vars : Settings.Variables} {name : String} {standIn n : Nat}
    (h : (number? vars name standIn).value = some n) : n ≤ Decimal.max64 := by
  unfold number? at h
  split at h
  · cases h
  · split at h
    next read =>
      cases h
      exact Decimal.le_of_read read
    next => cases h

section
variable {vars : Settings.Variables} {name : String} {k : Nat}

theorem exists_seconds (within : k ≤ Decimal.max64) :
    ∃ n ≤ Decimal.max64, (seconds vars name (.ofSeconds k)).value = .ofSeconds n := by
  show ∃ n ≤ Decimal.max64, ((number? vars name (Span.ofSeconds k).seconds).value.map
    Span.ofSeconds).getD (.ofSeconds k) = .ofSeconds n
  cases given : (number? vars name (Span.ofSeconds k).seconds).value with
  | none => exact ⟨k, within, rfl⟩
  | some n => exact ⟨n, number?_le given, rfl⟩

theorem exists_millis (within : k ≤ Decimal.max64) :
    ∃ n ≤ Decimal.max64, (millis vars name (.ofMillis k)).value = .ofMillis n := by
  show ∃ n ≤ Decimal.max64, ((number? vars name (Span.ofMillis k).millis).value.map
    Span.ofMillis).getD (.ofMillis k) = .ofMillis n
  cases given : (number? vars name (Span.ofMillis k).millis).value with
  | none => exact ⟨k, within, rfl⟩
  | some n => exact ⟨n, number?_le given, rfl⟩

end

/-- Settings as they come from some variables. -/
def IsLoaded (s : TimelineSettings) : Prop :=
  ∃ vars, s = (load vars).value

variable {s : TimelineSettings}

theorem IsLoaded.completeTtl (h : s.IsLoaded) : ∃ n ≤ Decimal.max64, s.completeTtl = .ofSeconds n := by
  obtain ⟨vars, rfl⟩ := h
  exact exists_seconds (by decide)

theorem IsLoaded.degradedTtl (h : s.IsLoaded) : ∃ n ≤ Decimal.max64, s.degradedTtl = .ofSeconds n := by
  obtain ⟨vars, rfl⟩ := h
  exact exists_seconds (by decide)

theorem IsLoaded.perSourceTimeout (h : s.IsLoaded) :
    ∃ n ≤ Decimal.max64, s.perSourceTimeout = .ofMillis n := by
  obtain ⟨vars, rfl⟩ := h
  exact exists_millis (by decide)

theorem IsLoaded.aggregationDeadline (h : s.IsLoaded) :
    ∃ n ≤ Decimal.max64, s.aggregationDeadline = .ofMillis n := by
  obtain ⟨vars, rfl⟩ := h
  exact exists_millis (by decide)

theorem IsLoaded.aggregationDeadline_le (h : s.IsLoaded) :
    s.aggregationDeadline ≤ .ofMillis Decimal.max64 := by
  obtain ⟨n, within, whole⟩ := h.aggregationDeadline
  rw [whole]
  exact Nat.mul_le_mul_right _ within

end TimelineSettings
end Casebook
