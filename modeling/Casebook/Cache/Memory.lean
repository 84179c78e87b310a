import Casebook.Cache.Stats
import Casebook.Text.Keyed
import Casebook.Text.Utf8
import Casebook.Time.Span

/-!
# The memory store

Values with a deadline, kept in memory. A value whose deadline has come is no longer given out and goes
away when it is next asked for; until then it counts as an entry and can be deleted. Main statement: the
deadline of a value that is kept for some time is still to come, even if it had to be brought forward.
-/

namespace Casebook.Cache

def memoryName : String := "memory"

/-- What a store sees of time. -/
structure Clock where
  /-- The span since the machine was started. -/
  elapsed : Span
  /-- The milliseconds since 1970-01-01. -/
  wallMillis : Int

namespace Clock

/-- The nanoseconds that the clock of the machine does not show any more: its seconds fill sixty-four
bits with a sign. -/
def limit : Nat := 1 <<< 63 * Span.perSecond

/-- What a span is taken for that ends beyond the clock of the machine: the seconds that thirty-two bits
hold. -/
def standInTtl : Span := .ofSeconds (1 <<< 32 - 1)

def fitted (now : Clock) (ttl : Span) : Span :=
  if now.elapsed.nanos + ttl.nanos < limit then ttl else ttl.shorter standInTtl

/-- When a span that begins now is over. -/
def deadline (now : Clock) (ttl : Span) : Span := ⟨now.elapsed.nanos + (now.fitted ttl).nanos⟩

theorem fitted_pos_iff {now : Clock} {ttl : Span} : 0 < (now.fitted ttl).nanos ↔ 0 < ttl.nanos := by
  have standIn : 0 < standInTtl.nanos := by decide
  rw [fitted, Span.shorter]
  split
  next => rfl
  next =>
    split
    next => rfl
    next long =>
      have longer : standInTtl.nanos < ttl.nanos := Nat.lt_of_not_le long
      omega

theorem lt_deadline_iff {now : Clock} {ttl : Span} :
    now.elapsed < now.deadline ttl ↔ 0 < ttl.nanos := by
  show now.elapsed.nanos < now.elapsed.nanos + (now.fitted ttl).nanos ↔ _
  rw [← @fitted_pos_iff now ttl]
  omega

end Clock

structure Held where
  bytes : Bytes
  deadline : Span
  deriving DecidableEq

structure Memory where
  values : List (String × Held)
  hits : Nat
  misses : Nat
  deriving DecidableEq

namespace Memory

def empty : Memory := ⟨[], 0, 0⟩

/-- The value under a key whose deadline has not come. -/
def live? (m : Memory) (now : Clock) (key : String) : Option Bytes :=
  ((Keyed.find? key m.values).filter fun h => now.elapsed < h.deadline).map (·.bytes)

def get (m : Memory) (now : Clock) (key : String) : Option Bytes × Memory :=
  match m.live? now key with
  | some b => (some b, { m with hits := m.hits + 1 })
  | none => (none, { m with values := Keyed.erase key m.values, misses := m.misses + 1 })

def set (m : Memory) (now : Clock) (key : String) (b : Bytes) (ttl : Span) : Memory :=
  { m with values := Keyed.insert key ⟨b, now.deadline ttl⟩ m.values }

def delete (m : Memory) (key : String) : Bool × Memory :=
  ((Keyed.find? key m.values).isSome, { m with values := Keyed.erase key m.values })

def stats (m : Memory) : Stats := ⟨m.hits, m.misses, m.values.length⟩

end Memory
end Casebook.Cache
