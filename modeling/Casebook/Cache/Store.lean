import Casebook.Cache.Location

/-!
# Stores

The one interface to whatever keeps values: a memory store, a mapped one, one that cannot be reached,
or a memory store that refuses some kinds of calls. Every call gives its answer and the store after it.
-/

namespace Casebook.Cache

inductive Call where
  | get
  | set
  | delete
  | ping
  | stats
  deriving DecidableEq, Repr

namespace Call

def all : List Call := [.get, .set, .delete, .ping, .stats]

def name : Call → String
  | .get => "get"
  | .set => "set"
  | .delete => "delete"
  | .ping => "ping"
  | .stats => "stats"

end Call

inductive Store where
  | memory (m : Memory)
  | mapped (m : Mapped)
  /-- Fails every call and counts them. -/
  | unreachable (calls : Nat)
  /-- Refuses some kinds of calls and leaves the others to a memory store. -/
  | refusing (refused : List Call) (m : Memory)
  deriving DecidableEq

namespace Store

/-- The answer to a call and the store after it. -/
abbrev Answered (α : Type) := Except CacheFault α × Store

def unreachableName : String := "failing"

def refusingName : String := "flaky"

def name : Store → String
  | .memory _ => memoryName
  | .mapped _ => mappedName
  | .unreachable _ => unreachableName
  | .refusing .. => refusingName

def unreachableFault : CacheFault := .unavailable unreachableName .unreachable

def refusal (c : Call) : CacheFault := .unavailable refusingName (.refused c.name)

def get (s : Store) (now : Clock) (key : String) : Answered (Option Bytes) :=
  match s with
  | .memory m => let (b, m) := m.get now key; (.ok b, .memory m)
  | .mapped m => let (b, m) := m.get now key; (b, .mapped m)
  | .unreachable n => (.error unreachableFault, .unreachable (n + 1))
  | .refusing r m =>
    if .get ∈ r then (.error (refusal .get), .refusing r m)
    else let (b, m) := m.get now key; (.ok b, .refusing r m)

def set (s : Store) (now : Clock) (key : String) (b : Bytes) (ttl : Span) : Answered Unit :=
  match s with
  | .memory m => (.ok (), .memory (m.set now key b ttl))
  | .mapped m => let (a, m) := m.set now key b ttl; (a, .mapped m)
  | .unreachable n => (.error unreachableFault, .unreachable (n + 1))
  | .refusing r m =>
    if .set ∈ r then (.error (refusal .set), .refusing r m)
    else (.ok (), .refusing r (m.set now key b ttl))

def delete (s : Store) (key : String) : Answered Bool :=
  match s with
  | .memory m => let (b, m) := m.delete key; (.ok b, .memory m)
  | .mapped m => let (b, m) := m.delete key; (b, .mapped m)
  | .unreachable n => (.error unreachableFault, .unreachable (n + 1))
  | .refusing r m =>
    if .delete ∈ r then (.error (refusal .delete), .refusing r m)
    else let (b, m) := m.delete key; (.ok b, .refusing r m)

def ping (s : Store) : Answered Unit :=
  match s with
  | .unreachable n => (.error unreachableFault, .unreachable (n + 1))
  | .refusing r m => (if .ping ∈ r then .error (refusal .ping) else .ok (), .refusing r m)
  | s => (.ok (), s)

def stats (s : Store) : Answered Stats :=
  match s with
  | .memory m => (.ok m.stats, .memory m)
  | .mapped m => (.ok m.stats, .mapped m)
  | .unreachable n => (.error unreachableFault, .unreachable (n + 1))
  | .refusing r m => (if .stats ∈ r then .error (refusal .stats) else .ok m.stats, .refusing r m)

/-- Changes which calls are refused; other stores stay as they are. -/
def setRefused (s : Store) (refused : List Call) : Store :=
  match s with
  | .refusing _ m => .refusing refused m
  | s => s

def reopen (s : Store) : Store :=
  match s with
  | .mapped m => .mapped m.reopen
  | s => s

def atLocation : Location → Store
  | .memory => .memory .empty
  | .directory _ => .mapped (.ofValues [] Mapped.defaultLimit)

def openUrl (url : String) : Except CacheFault Store := do
  let l ← Location.parse url
  l.open?
  .ok (atLocation l)

end Store
end Casebook.Cache
