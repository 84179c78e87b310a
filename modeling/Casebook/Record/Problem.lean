import Casebook.Problem
import Casebook.Json.Record
import Casebook.Json.Reader

/-!
# Problem records

Reading a problem back from its document form.
-/

namespace Casebook.Problem

open Json (Record)

def Code.toJson (c : Code) : Json := .string c.name

def Code.ofJson? (v : Json) : Option Code :=
  Json.named? Code.name Code.all v

/-- Details as they are kept: everything in them denotes something, and together with the record they
are no deeper than a document may be. -/
def keptDetails? (v : Json) : Option Json :=
  if v.isSound && v.depth < Json.maxDepth then some v.canonical else none

def ofJson? (v : Json) : Option Problem := do
  let r ← Record.ofJson? ["code", "message", "details"] v
  let code ← Code.ofJson? (← r.required? 0)
  let message ← (← r.required? 1).asString?
  match ← r.optional? 2 with
  | none => some ⟨code, message, none⟩
  | some d => some ⟨code, message, some (← keptDetails? d)⟩

end Casebook.Problem
