import Casebook.CaseId

/-!
# Cache keys

The key under which a case is kept. Main statement: distinct cases have distinct keys.
-/

namespace Casebook.Cache

def keyMark : String := "support:timeline:"

def keyOf (c : CaseId) : String := keyMark ++ c.text

theorem keyOf_injective {a b : CaseId} (h : keyOf a = keyOf b) : a = b := by
  have h' : a.text = b.text := by
    have := congrArg String.toList h
    simpa [keyOf, String.toList_append, String.toList_inj] using this
  cases a
  cases b
  cases h'
  rfl

end Casebook.Cache
