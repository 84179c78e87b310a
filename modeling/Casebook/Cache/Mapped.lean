import Casebook.Cache.Memory
import Casebook.Cache.Pages
import Casebook.Fault

/-!
# The mapped store

Values in a file that is mapped into memory and outlives the process. A value is written with its
deadline in front: eight bytes, the least first, of a signed count of milliseconds. The map has a fixed
size: a change that does not fit is refused and nothing changes. Main statement: a written value reads
back with its deadline.
-/

namespace Casebook.Cache

def mappedName : String := "lmdb"

def deadlineLength : Nat := 8

def deadlineCount : Nat := 1 <<< 64

def latestDeadline : Int := (deadlineCount / 2 : Nat) - 1

def leastBytes : Nat → Nat → Bytes
  | 0, _ => []
  | n + 1, v => (v % 256).toUInt8 :: leastBytes n (v / 256)

def ofLeastBytes : Bytes → Nat
  | [] => 0
  | b :: r => b.toNat + 256 * ofLeastBytes r

def withDeadline (deadline : Int) (b : Bytes) : Bytes :=
  leastBytes deadlineLength (deadline % deadlineCount).toNat ++ b

/-- The deadline and the value of stored bytes, unless they are too short for a deadline. -/
def splitDeadline? (stored : Bytes) : Option (Int × Bytes) :=
  if stored.length < deadlineLength then none
  else
    let n := ofLeastBytes (stored.take deadlineLength)
    some (Int.bmod n deadlineCount, stored.drop deadlineLength)

/-- The deadline of a value that is stored now for a span. -/
def deadlineAfter (now : Clock) (ttl : Span) : Int :=
  min (now.wallMillis + min (ttl.millis : Int) latestDeadline) latestDeadline

structure Mapped where
  values : List (String × Bytes)
  hits : Nat
  misses : Nat
  /-- Where the values lie in the map. -/
  file : Pages
  deriving DecidableEq

namespace Mapped

def defaultLimit : Nat := Pages.countOf 256

def ofValues (values : List (String × Bytes)) (limit : Nat) : Mapped :=
  let file := (Pages.empty limit).putAll? (values.map fun v => (v.1, v.2.length))
  ⟨Keyed.ofList values, 0, 0, file.getD (Pages.empty limit)⟩

def noRoom : CacheFault := .unavailable mappedName .mapFull

def delete (m : Mapped) (key : String) : Except CacheFault Bool × Mapped :=
  match Keyed.find? key m.values with
  | none => (.ok false, m)
  | some _ =>
    match m.file.delete? key with
    | some file => (.ok true, { m with values := Keyed.erase key m.values, file := file })
    | none => (.error noRoom, m)

/-- Asks for the value under a key; one whose time has passed is deleted if that is possible. -/
def get (m : Mapped) (now : Clock) (key : String) : Except CacheFault (Option Bytes) × Mapped :=
  match Keyed.find? key m.values with
  | none => (.ok none, { m with misses := m.misses + 1 })
  | some stored =>
    match splitDeadline? stored with
    | none => (.error (.corrupt key .short), m)
    | some (deadline, b) =>
      if deadline ≤ now.wallMillis then
        (.ok none, { (m.delete key).2 with misses := m.misses + 1 })
      else (.ok (some b), { m with hits := m.hits + 1 })

def set (m : Mapped) (now : Clock) (key : String) (b : Bytes) (ttl : Span) :
    Except CacheFault Unit × Mapped :=
  let stored := withDeadline (deadlineAfter now ttl) b
  match m.file.put? key stored.length with
  | some file => (.ok (), { m with values := Keyed.insert key stored m.values, file := file })
  | none => (.error noRoom, m)

def stats (m : Mapped) : Stats := ⟨m.hits, m.misses, m.values.length⟩

/-- Closes a store and opens it again: the values stay, the counts start anew. -/
def reopen (m : Mapped) : Mapped := { m with hits := 0, misses := 0 }

end Mapped

theorem leastBytes_length (n v : Nat) : (leastBytes n v).length = n := by
  induction n generalizing v with
  | zero => rfl
  | succ n ih => simp [leastBytes, ih]

theorem ofLeastBytes_leastBytes (n v : Nat) : ofLeastBytes (leastBytes n v) = v % Nat.pow 256 n := by
  induction n generalizing v with
  | zero => simp [leastBytes, ofLeastBytes, Nat.mod_one]
  | succ n ih =>
    have h : v % 256 < 256 := Nat.mod_lt _ (by decide)
    simp only [leastBytes, ofLeastBytes, ih]
    rw [Nat.pow_eq, Nat.pow_eq, Nat.pow_succ, Nat.mul_comm (256 ^ n) 256, Nat.mod_mul]
    simp [Nat.toUInt8, UInt8.toNat_ofNat', Nat.mod_eq_of_lt h]

theorem bmod_wrapped {d : Int} (low : -latestDeadline ≤ d + 1) (high : d ≤ latestDeadline) :
    Int.bmod ((d % deadlineCount).toNat : Int) deadlineCount = d := by
  have count : deadlineCount = 18446744073709551616 := rfl
  have latest : latestDeadline = 9223372036854775807 := rfl
  rw [count, Int.bmod_def]
  omega

theorem splitDeadline?_append {front : Bytes} {n : Nat} (hl : front.length = deadlineLength)
    (hv : ofLeastBytes front = n) (b : Bytes) :
    splitDeadline? (front ++ b) = some (Int.bmod n deadlineCount, b) := by
  have hshort : ¬ (front ++ b).length < deadlineLength := by
    rw [List.length_append, hl]
    omega
  rw [splitDeadline?, if_neg hshort, List.take_left' hl, List.drop_left' hl, hv]

theorem splitDeadline?_withDeadline {d : Int} (b : Bytes) (low : -latestDeadline ≤ d + 1)
    (high : d ≤ latestDeadline) : splitDeadline? (withDeadline d b) = some (d, b) := by
  have hlt : (d % deadlineCount).toNat < Nat.pow 256 deadlineLength := by
    have count : deadlineCount = 18446744073709551616 := rfl
    change _ < deadlineCount
    rw [count]
    omega
  have hv := ofLeastBytes_leastBytes deadlineLength (d % deadlineCount).toNat
  rw [Nat.mod_eq_of_lt hlt] at hv
  rw [withDeadline, splitDeadline?_append (leastBytes_length _ _) hv, bmod_wrapped low high]

end Casebook.Cache
