import Casebook.Decimal.Digits

/-!
# Spans of time

A length of time as whole nanoseconds, and its text in the greatest unit that it fills. Main statements:
sums and counts of milliseconds keep the order, and counting a started millisecond whole adds less than
one.
-/

namespace Casebook

structure Span where
  nanos : Nat
  deriving DecidableEq, Repr

namespace Span

def perSecond : Nat := 1000000000

def of (seconds nanos : Nat) : Span := ⟨seconds * perSecond + nanos⟩

def ofSeconds (n : Nat) : Span := of n 0

def ofMillis (n : Nat) : Span := ⟨n * 1000000⟩

def zero : Span := ⟨0⟩

/-- The longest span: its seconds fill sixty-four bits. -/
def longest : Span := of Decimal.max64 (perSecond - 1)

def seconds (s : Span) : Nat := s.nanos / perSecond

/-- The nanoseconds beyond the whole seconds. -/
def subsecond (s : Span) : Nat := s.nanos % perSecond

def millis (s : Span) : Nat := s.nanos / 1000000

/-- The milliseconds of a span, a started one counted whole. -/
def ceilMillis (s : Span) : Nat := (s.nanos + 999999) / 1000000

/-- The sum of two spans, at most the longest one. -/
def plus (a b : Span) : Span := ⟨min (a.nanos + b.nanos) longest.nanos⟩

instance : LE Span := ⟨fun a b => a.nanos ≤ b.nanos⟩
instance : LT Span := ⟨fun a b => a.nanos < b.nanos⟩
instance (a b : Span) : Decidable (a ≤ b) := inferInstanceAs (Decidable (a.nanos ≤ b.nanos))
instance (a b : Span) : Decidable (a < b) := inferInstanceAs (Decidable (a.nanos < b.nanos))

def longer (a b : Span) : Span := if a ≤ b then b else a

def shorter (a b : Span) : Span := if a ≤ b then a else b

/-- `n` in a unit of `10 ^ places`, the fraction without trailing zeros. -/
def inUnit (n places : Nat) (unit : String) : String :=
  let size := Nat.pow 10 places
  let part := (Decimal.padded places (n % size)).reverse.dropWhile (· = '0')
  let point := if part.isEmpty then [] else '.' :: part.reverse
  Decimal.natText (n / size) ++ String.ofList point ++ unit

def text (s : Span) : String :=
  if 1000000000 ≤ s.nanos then inUnit s.nanos 9 "s"
  else if 1000000 ≤ s.nanos then inUnit s.nanos 6 "ms"
  else if 1000 ≤ s.nanos then inUnit s.nanos 3 "µs"
  else Decimal.natText s.nanos ++ "ns"

theorem seconds_ofSeconds (n : Nat) : (ofSeconds n).seconds = n := by
  simp [ofSeconds, of, seconds, perSecond]

theorem plus_le_plus {a b : Span} (h : a ≤ b) (t : Span) : a.plus t ≤ b.plus t := by
  have le : a.nanos ≤ b.nanos := h
  show min (a.nanos + t.nanos) longest.nanos ≤ min (b.nanos + t.nanos) longest.nanos
  omega

theorem le_plus {a : Span} (h : a.nanos ≤ longest.nanos) (t : Span) : a ≤ a.plus t := by
  show a.nanos ≤ min (a.nanos + t.nanos) longest.nanos
  omega

theorem shorter_le_right (s t : Span) : s.shorter t ≤ t := by
  rw [shorter]
  split
  next le => exact le
  next => exact Nat.le_refl _

theorem ceilMillis_le {s t : Span} (h : s ≤ t) : s.ceilMillis ≤ t.ceilMillis := by
  have le : s.nanos ≤ t.nanos := h
  exact Nat.div_le_div_right (Nat.add_le_add_right le _)

theorem ceilMillis_mul_lt (s : Span) : s.ceilMillis * 1000000 < s.nanos + 1000000 := by
  rw [ceilMillis]
  omega

end Span
end Casebook
