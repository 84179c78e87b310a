import Casebook.Time.Calendar
import Casebook.Time.Span

/-!
# Instants

A point of time in UTC: the seconds since 1970-01-01 and the nanoseconds after them. A leap second
shares the number of the second before it and has nanoseconds of a thousand million or more, so that
instants are ordered by their seconds first and their nanoseconds second.
-/

namespace Casebook

namespace Instant

def perDay : Nat := 86400

def firstYear : Int := -262143

def lastYear : Int := 262142

def firstSecond : Int := (Date.number ⟨firstYear, 1, 1⟩) * perDay

def lastSecond : Int := (Date.number ⟨lastYear, 12, 31⟩ + 1) * perDay - 1

/-- Whether seconds and nanoseconds make an instant: the seconds are reached, and only the last second
of a minute is followed by a leap second. -/
def IsTime (seconds : Int) (nanos : Nat) : Prop :=
  firstSecond ≤ seconds ∧ seconds ≤ lastSecond ∧ nanos < 2 * Span.perSecond ∧
    (Span.perSecond ≤ nanos → seconds % 60 = 59)

instance (seconds : Int) (nanos : Nat) : Decidable (IsTime seconds nanos) :=
  inferInstanceAs (Decidable (_ ∧ _))

end Instant

structure Instant where
  seconds : Int
  nanos : Nat
  isTime : Instant.IsTime seconds nanos
  deriving DecidableEq

namespace Instant

instance : LE Instant :=
  ⟨fun a b => a.seconds < b.seconds ∨ (a.seconds = b.seconds ∧ a.nanos ≤ b.nanos)⟩

instance : LT Instant :=
  ⟨fun a b => a.seconds < b.seconds ∨ (a.seconds = b.seconds ∧ a.nanos < b.nanos)⟩

theorem le_def {a b : Instant} :
    a ≤ b ↔ a.seconds < b.seconds ∨ (a.seconds = b.seconds ∧ a.nanos ≤ b.nanos) := Iff.rfl

theorem lt_def {a b : Instant} :
    a < b ↔ a.seconds < b.seconds ∨ (a.seconds = b.seconds ∧ a.nanos < b.nanos) := Iff.rfl

instance (a b : Instant) : Decidable (a ≤ b) := decidable_of_iff _ le_def.symm
instance (a b : Instant) : Decidable (a < b) := decidable_of_iff _ lt_def.symm

def of? (seconds : Int) (nanos : Nat) : Option Instant :=
  if h : IsTime seconds nanos then some ⟨seconds, nanos, h⟩ else none

def latest : Instant := ⟨lastSecond, Span.perSecond - 1, by decide⟩

def isLeap (t : Instant) : Bool :=
  Span.perSecond ≤ t.nanos

/-- The instant a span later, if instants reach it. Within a leap second a part of a second is simply
added; a span that leaves it counts from the end of the second that it shares its number with. -/
def plus? (t : Instant) (s : Span) : Option Instant :=
  if t.isLeap && s.seconds = 0 && t.nanos + s.subsecond < 2 * Span.perSecond then
    of? t.seconds (t.nanos + s.subsecond)
  else
    let start := if t.isLeap then t.nanos - Span.perSecond else t.nanos
    let total := start + s.nanos
    of? (t.seconds + (total / Span.perSecond : Nat)) (total % Span.perSecond)

def date (t : Instant) : Date :=
  Date.ofNumber (t.seconds / perDay)

/-- The second of its day in which an instant falls. -/
def secondOfDay (t : Instant) : Nat :=
  (t.seconds % perDay).toNat

end Instant
end Casebook
