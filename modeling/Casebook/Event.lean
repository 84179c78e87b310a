import Casebook.Source
import Casebook.Text.Keyed
import Casebook.Time.Instant

/-!
# Events

One thing that happened in a case: where, when, what, and a few named texts about it.
-/

namespace Casebook

/-- Named texts in the order of their names. -/
structure Payload where
  entries : List (String × String)
  isSorted : Keyed.Sorted entries

namespace Payload

instance : DecidableEq Payload := fun a b =>
  decidable_of_iff (a.entries = b.entries) ⟨fun h => by cases a; cases b; cases h; rfl, fun h => h ▸ rfl⟩

def empty : Payload := ⟨[], Keyed.sorted_nil⟩

/-- The texts of a list; of several with one name the last stays. -/
def ofList (l : List (String × String)) : Payload :=
  ⟨Keyed.ofList l, Keyed.sorted_ofList l⟩

def get? (p : Payload) (name : String) : Option String :=
  Keyed.find? name p.entries

end Payload

structure Event where
  source : Source
  occurredAt : Instant
  kind : String
  payload : Payload
  deriving DecidableEq

end Casebook
