import Casebook.Cache.Key
import Casebook.Cache.Store

/-!
# Requests to stores

The calls of a store as data, with what they give.
-/

namespace Casebook.Cache

inductive Request where
  | set (c : CaseId) (b : Bytes) (ttl : Span)
  | get (c : CaseId)
  | delete (c : CaseId)
  | ping
  | stats

inductive Reply where
  | done
  | found (b : Option Bytes)
  | existed (was : Bool)
  | counts (s : Stats)
  | failed (f : CacheFault)
  deriving DecidableEq

def Reply.of {α : Type} (form : α → Reply) : Except CacheFault α → Reply
  | .ok a => form a
  | .error f => .failed f

def Store.handle (s : Store) (now : Clock) : Request → Reply × Store
  | .set c b ttl => let (a, s) := s.set now (keyOf c) b ttl; (.of (fun _ => .done) a, s)
  | .get c => let (a, s) := s.get now (keyOf c); (.of .found a, s)
  | .delete c => let (a, s) := s.delete (keyOf c); (.of .existed a, s)
  | .ping => let (a, s) := s.ping; (.of (fun _ => .done) a, s)
  | .stats => let (a, s) := s.stats; (.of .counts a, s)

end Casebook.Cache
