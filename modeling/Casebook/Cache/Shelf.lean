import Casebook.Cache.Key
import Casebook.Cache.Store
import Casebook.Record.Case

/-!
# The shelf of timelines

Entries in a store, each under the key of its case. A value that is no entry, or the entry of another
case, is damage: it is reported and thrown away.
-/

namespace Casebook.Cache

/-- What stored bytes are for a case: its entry, or damage. -/
def readEntry (c : CaseId) (b : Bytes) : Except Damage Entry :=
  match Entry.ofBytes? b with
  | none => .error .unreadable
  | some e => if e.caseId = c then .ok e else .error (.foreign e.caseId.text)

namespace Store

/-- Loads the entry of a case. Damage is thrown away if the store allows it. -/
def load (s : Store) (now : Clock) (c : CaseId) : Answered (Option Entry) :=
  let key := keyOf c
  match s.get now key with
  | (.error f, s) => (.error f, s)
  | (.ok none, s) => (.ok none, s)
  | (.ok (some b), s) =>
    match readEntry c b with
    | .ok e => (.ok (some e), s)
    | .error damage => (.error (.corrupt key damage), (s.delete key).2)

def keep (s : Store) (now : Clock) (e : Entry) : Answered Unit :=
  s.set now (keyOf e.caseId) e.toBytes e.ttl

def drop (s : Store) (c : CaseId) : Answered Bool :=
  s.delete (keyOf c)

def describe (s : Store) : String :=
  s!"TimelineCache \x7b backend: {Text.quoted s.name} \x7d"

end Store
end Casebook.Cache
