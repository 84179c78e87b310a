import Casebook.CaseId
import Casebook.Timeline

/-!
# Cache entries

A timeline as it is kept: for which case, since when and for how many whole seconds. An entry is fresh
before the instant at which it expires, which is the last instant of all if the sum is not reached.
-/

namespace Casebook

structure Entry where
  caseId : CaseId
  timeline : Timeline
  storedAt : Instant
  ttlSeconds : Nat
  ttl_le : ttlSeconds ≤ Decimal.max64
  deriving DecidableEq

namespace Entry

/-- Keeps a timeline for a span, cut to whole seconds and to what sixty-four bits hold. -/
def keep (caseId : CaseId) (timeline : Timeline) (now : Instant) (ttl : Span) : Entry :=
  ⟨caseId, timeline, now, min ttl.seconds Decimal.max64, Nat.min_le_right _ _⟩

def ttl (e : Entry) : Span := Span.ofSeconds e.ttlSeconds

/-- The instant from which an entry is no longer served. -/
def expiresAt (e : Entry) : Instant :=
  (e.storedAt.plus? e.ttl).getD Instant.latest

def isFreshAt (e : Entry) (now : Instant) : Bool :=
  now < e.expiresAt

end Entry
end Casebook
