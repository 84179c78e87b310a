import Casebook.Text.Keyed

/-!
# Pages

The file of the mapped store: pages of one size, up to a limit. One page holds the short values and says
where the long ones are, and one page, the ledger, lists the free pages; long values and long lists have
pages in a row for themselves. A write changes no page that earlier writes left: it takes other pages
for what it changes and gives up those that they replace, which are free from the second write after
it on.
-/

namespace Casebook.Cache

structure Row where
  first : Nat
  count : Nat
  deriving DecidableEq, Repr

def Row.pages (r : Row) : List Nat := List.range' r.first r.count

def rowPages (r : Option Row) : List Nat := (r.map Row.pages).getD []

structure FreePages where
  /-- The number of the write that gave them up. -/
  since : Nat
  pages : List Nat
  /-- The pages of the list itself, if it is long. -/
  own : Option Row
  deriving DecidableEq, Repr

structure Pages where
  /-- The number of pages; the last one is never taken. -/
  limit : Nat
  writes : Nat
  /-- The first page that was never taken. -/
  next : Nat
  /-- The page that holds the short values, if there are values. -/
  index : Option Nat
  /-- The page that lists free pages, if any are listed. -/
  ledger : Option Nat
  /-- The keys of the values with the pages of the long ones. -/
  values : List (String × Option Row)
  /-- What the ledger lists, the oldest first. -/
  free : List FreePages
  deriving DecidableEq, Repr

namespace Pages

def size : Nat := 4096

def countOf (mebibytes : Nat) : Nat := max mebibytes 1 * 1024 * 1024 / size

def header : Nat := 16

/-- The most bytes of an entry that shares its page with others. -/
def longestShared : Nat := 2038

def entryHeader : Nat := 8

def rowLength (bytes : Nat) : Nat := (header - 1 + bytes) / size + 1

def isLong (keyBytes bytes : Nat) : Bool := longestShared < entryHeader + keyBytes + bytes

def numberBytes : Nat := 8

def listBytes (n : Nat) : Nat := numberBytes * (n + 1)

def longestList : Nat := (size - header) / numberBytes - 1

def rowAmong? (n : Nat) : List Nat → Option Nat
  | [] => none
  | p :: r => if (p :: r)[n - 1]? = some (p + (n - 1)) then some p else rowAmong? n r

/-- A file without values; the first two pages describe it. -/
def empty (limit : Nat) : Pages := ⟨limit, 0, 2, none, none, [], []⟩

/-- A file during a write. -/
structure Writing extends Pages where
  hasIndex : Bool
  hasLedger : Bool
  /-- Free pages that this write may take. -/
  pool : List Nat
  /-- The write that gave up what came last into the pool; none has this number if nothing did. -/
  latest : Nat
  /-- The entries of the ledger for what is in the pool. -/
  pooled : List FreePages
  spent : List Nat

def start (p : Pages) : Writing :=
  { p with hasIndex := false, hasLedger := false, pool := [], latest := 0, pooled := [], spent := [] }

namespace Writing

/-- Adds free pages to the pool, the oldest first, until it has `n` in a row; what the last write gave
up is not free yet. -/
def gather (n : Nat) : List FreePages → Writing → Writing
  | [], w => { w with free := [] }
  | f :: fs, w =>
    if (rowAmong? n w.pool).isSome || w.writes ≤ f.since then { w with free := f :: fs }
    else
      gather n fs
        { w with
          pool := w.pool.merge f.pages
          latest := f.since
          pooled := w.pooled ++ [f] }

/-- Takes `n` pages in a row: free ones if there are, or else the next of the file. -/
def take? (n : Nat) (w : Writing) : Option (Nat × Writing) :=
  let w := gather n w.free w
  match rowAmong? n w.pool with
  | some p => some (p, { w with pool := w.pool.filter fun q => q < p || p + n ≤ q })
  | none =>
    if w.limit ≤ w.next + n then none else some (w.next, { w with next := w.next + n })

def giveUp (ps : List Nat) (w : Writing) : Writing := { w with spent := w.spent ++ ps }

/-- Gives up pages that this write has taken: they may be taken again at once if there is a pool. -/
def giveBack (ps : List Nat) (w : Writing) : Writing :=
  if w.latest = 0 then w.giveUp ps else { w with pool := w.pool.merge ps }

def openIndex? (w : Writing) : Option Writing :=
  if w.hasIndex then some w
  else do
    let (p, w) ← w.take? 1
    some (giveUp w.index.toList { w with index := some p, hasIndex := true })

def openLedger? (w : Writing) : Option Writing :=
  if w.hasLedger then some w
  else do
    let (p, w) ← w.take? 1
    some (giveUp w.ledger.toList { w with ledger := some p, hasLedger := true })

def valuePages (key : String) (w : Writing) : List Nat :=
  rowPages ((Keyed.find? key w.values).getD none)

def put? (key : String) (bytes : Nat) (w : Writing) : Option Writing := do
  let w ← w.openIndex?
  let w := w.giveUp (w.valuePages key)
  if isLong key.utf8ByteSize bytes then
    let (p, w) ← w.take? (rowLength bytes)
    some { w with values := Keyed.insert key (some ⟨p, rowLength bytes⟩) w.values }
  else some { w with values := Keyed.insert key none w.values }

def delete? (key : String) (w : Writing) : Option Writing := do
  let w ← w.openIndex?
  let w := w.giveUp (w.valuePages key)
  let w := { w with values := Keyed.erase key w.values }
  if w.values.isEmpty then
    some (giveUp w.index.toList { w with index := none, hasIndex := false })
  else some w

def placeList? (n : Nat) (old : Option Row) (w : Writing) : Option (Option Row × Writing) :=
  let count := rowLength (listBytes n)
  if old.any fun r => count ≤ r.count then some (old, w)
  else
    let w := w.giveBack (rowPages old)
    if isLong numberBytes (listBytes n) then do
      let (p, w) ← w.take? count
      some (some ⟨p, count⟩, w)
    else some (none, w)

end Writing

structure Kept where
  since : Nat
  room : Nat
  own : Option Row

/-- A file while the ledger is written. Writing it may itself take pages and give some up, so that
it is done again until nothing changes. -/
structure Saving extends Writing where
  listed : Nat
  /-- The pages of their list. -/
  listOwn : Option Row
  kept : List Kept
  /-- Whether more room than the pool needs is still to be mended. -/
  mends : Bool

namespace Saving

def roomOf : List Kept → Nat
  | [] => 0
  | k :: ks => k.room + roomOf ks

def room (s : Saving) : Nat := roomOf s.kept

def dropPooled (s : Saving) : Saving :=
  if s.pooled.isEmpty then s
  else
    let w := s.toWriting.giveBack (s.kept.flatMap fun k => rowPages k.own)
    let w := w.giveUp (s.pooled.flatMap fun f => rowPages f.own)
    let w := { w with pooled := [] }
    if s.free.isEmpty && s.listed = 0 then
      let w := w.giveUp w.ledger.toList
      ⟨{ w with ledger := none, hasLedger := false }, s.listed, s.listOwn, [], s.mends⟩
    else ⟨w, s.listed, s.listOwn, [], s.mends⟩

def list? (s : Saving) : Option Saving := do
  let w ← s.toWriting.openLedger?
  let listed := w.spent.length
  let (own, w) ← w.placeList? listed s.listOwn
  some ⟨w, listed, own, s.kept, s.mends⟩

/-- The entries for the pool up to the one that is written next; a full one stays. -/
def entries (s : Saving) : Kept × List Kept :=
  match s.kept with
  | [] => (⟨s.latest, 0, none⟩, [])
  | k :: ks =>
    if s.room < s.pool.length && longestList ≤ k.room && 1 < k.since then
      (⟨k.since - 1, 0, none⟩, k :: ks)
    else (k, ks)

/-- The room of an entry for `n` pages: a list that is longer than one page is spread over the entries
that may follow, in whole pages. -/
def spreadRoom (since n : Nat) : Nat :=
  if longestList < n && 1 < since then
    n / since + (longestList - n / since % (longestList + 1))
  else n

def keep? (s : Saving) : Option Saving := do
  let (k, ks) := s.entries
  let room := spreadRoom k.since (s.pool.length - roomOf ks)
  let w ← s.toWriting.openLedger?
  let (own, w) ← w.placeList? room k.own
  some ⟨w, s.listed, s.listOwn, ⟨k.since, room, own⟩ :: ks, s.mends && s.room < s.pool.length⟩

def settle? : Nat → Saving → Option Saving
  | 0, s => some s
  | rounds + 1, s =>
    let s := s.dropPooled
    if s.listed < s.spent.length then s.list? >>= settle? rounds
    else if s.pool.length = s.room || (s.pool.length < s.room && !s.mends) then some s
    else s.keep? >>= settle? rounds

def fill : List Kept → List Nat → List FreePages
  | [], _ => []
  | k :: ks, ps => ⟨k.since, ps.take k.room, k.own⟩ :: fill ks (ps.drop k.room)

def file (s : Saving) : Pages :=
  let writes := s.writes + 1
  let own := if s.listed = 0 then [] else [⟨writes, s.spent.mergeSort, s.listOwn⟩]
  { s.toPages with writes := writes, free := fill s.kept s.pool ++ s.free ++ own }

end Saving

/-- Ends a write: writes the ledger, in at most as many rounds as there may be pages. -/
def Writing.finish? (w : Writing) : Option Pages := do
  let w ← if w.latest = 0 then some w else w.openLedger?
  let s ← Saving.settle? w.limit ⟨w, 0, none, [], true⟩
  some s.file

def put? (key : String) (bytes : Nat) (p : Pages) : Option Pages :=
  p.start.put? key bytes >>= Writing.finish?

def delete? (key : String) (p : Pages) : Option Pages :=
  p.start.delete? key >>= Writing.finish?

/-- Puts values of some bytes in one write; nothing is written for none. -/
def putAll? (values : List (String × Nat)) (p : Pages) : Option Pages :=
  if values.isEmpty then some p
  else values.foldlM (fun w v => w.put? v.1 v.2) p.start >>= Writing.finish?

end Pages
end Casebook.Cache
