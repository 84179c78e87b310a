import Casebook.Text.Parts
import Casebook.Text.Percent

/-!
# Queries

The question that a request asks beyond its path: names with values, as forms write them. The one name
that is understood asks for the timeline of a case; every other name is passed over.
-/

namespace Casebook.Http

/-- The pairs of a query as they are written; a pair without a value has the empty one. -/
def writtenPairs (query : String) : List (String × String) :=
  ((Text.cut '&' query).filter (· ≠ "")).map fun p =>
    let (name, rest) := (p.toList.takeWhile (· ≠ '='), p.toList.dropWhile (· ≠ '='))
    (String.ofList name, String.ofList rest.tail)

/-- The bytes of a written name or value; a plus sign stands for a space. -/
def formDecode (s : String) : Bytes :=
  Text.percentDecode (Bytes.ofText (s.map fun c => if c = '+' then ' ' else c))

def queryPairs (query : String) : List (Bytes × Bytes) :=
  (writtenPairs query).map fun p => (formDecode p.1, formDecode p.2)

inductive QueryFault where
  | notBoolean
  | duplicate
  deriving DecidableEq, Repr

def timelineName : String := "includeTimeline"

def QueryFault.message : QueryFault → String
  | .notBoolean =>
    "Failed to deserialize query string: provided string was not `true` or `false`"
  | .duplicate => s!"Failed to deserialize query string: duplicate field `{timelineName}`"

def readBool (b : Bytes) : Except QueryFault Bool :=
  if b = Bytes.ofText "true" then .ok true
  else if b = Bytes.ofText "false" then .ok false
  else .error .notBoolean

/-- Whether pairs ask for the timeline; `known` is what pairs in front of them said. -/
def asksTimeline (known : Option Bool) : List (Bytes × Bytes) → Except QueryFault (Option Bool)
  | [] => .ok known
  | (name, value) :: r =>
    if name ≠ Bytes.ofText timelineName then asksTimeline known r
    else if known.isSome then .error .duplicate
    else
      match readBool value with
      | .ok b => asksTimeline (some b) r
      | .error f => .error f

def readQuery (query : Option String) : Except QueryFault Bool :=
  (asksTimeline none (queryPairs (query.getD ""))).map (·.getD false)

end Casebook.Http
