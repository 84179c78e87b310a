import Casebook.Decimal.Binary64

/-!
# Cache statistics

How often a store had a live value when asked, and how many values it keeps.
-/

namespace Casebook.Cache

open Decimal (Binary64)

structure Stats where
  hits : Nat
  misses : Nat
  entries : Nat
  deriving DecidableEq, Repr

def Stats.zero : Stats := ⟨0, 0, 0⟩

/-- The share of hits, zero if the store was never asked. The counts are rounded to double precision
before they are divided. -/
def Stats.hitRate (s : Stats) : Binary64 :=
  let total := s.hits + s.misses
  if total = 0 then .zero false else .ratio s.hits total

end Casebook.Cache
