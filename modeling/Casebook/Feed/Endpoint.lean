import Casebook.CaseId
import Casebook.Source
import Casebook.Text.Substitute

/-!
# Endpoints

Where a source is asked for the events of a case: a base without slashes at its end, and a path in
which the case id takes the place of a mark.
-/

namespace Casebook.Feed

/-- The mark in a path for which the case id stands in. -/
def placeholder : String := "\x7bcase_id\x7d"

structure Endpoint where
  source : Source
  base : String
  path : String
  deriving DecidableEq, Repr

namespace Endpoint

/-- The endpoint of a base that may end in slashes. -/
def ofBase (source : Source) (base path : String) : Endpoint :=
  ⟨source, String.ofList (Text.dropTrailing '/' base.toList), path⟩

def urlFor (e : Endpoint) (c : CaseId) : String :=
  e.base ++ String.ofList (Text.substitute placeholder.toList c.text.toList e.path.toList)

end Endpoint
end Casebook.Feed
