import Casebook.Proofs.Cache.Frames
import Mathlib.Data.Nat.Digits.Defs

/-!
# Deadlines in front of values

The mapped store writes a value behind eight bytes that stand for its deadline, and reads whatever
stands under a key in the same way. Any eight bytes are a deadline, negative ones and the latest
included, and a value is given out at exactly the times before it. A value whose time has passed is
reported as absent in any case; it goes away only if the deletion finds room, and a full map has none.
-/

namespace Casebook.Cache

/-! ### Eight bytes as a number with a sign -/

/-- A number with a sign in eight bytes, the least first: it is in the range of sixty-four bits, and it
is the number with these bytes as digits up to a multiple of their count. -/
structure IsDeadline (front : Bytes) (d : Int) : Prop where
  length : front.length = deadlineLength
  low : -latestDeadline ≤ d + 1
  high : d ≤ latestDeadline
  digits : (deadlineCount : Int) ∣ d - (Nat.ofDigits 256 (front.map UInt8.toNat) : Nat)

theorem ofLeastBytes_eq_ofDigits (b : Bytes) :
    ofLeastBytes b = Nat.ofDigits 256 (b.map UInt8.toNat) := by
  induction b with
  | nil => rfl
  | cons d b ih => rw [ofLeastBytes, ih, List.map_cons, Nat.ofDigits_cons]

theorem bmod_eq_iff {n : Nat} {d : Int} : Int.bmod n deadlineCount = d ↔
    -latestDeadline ≤ d + 1 ∧ d ≤ latestDeadline ∧ (deadlineCount : Int) ∣ d - n := by
  have count : deadlineCount = 18446744073709551616 := rfl
  have latest : latestDeadline = 9223372036854775807 := rfl
  rw [count, latest, Int.bmod_def]
  omega

theorem isDeadline_iff {front : Bytes} {d : Int} : IsDeadline front d ↔
    front.length = deadlineLength ∧ Int.bmod (ofLeastBytes front) deadlineCount = d := by
  rw [bmod_eq_iff, ofLeastBytes_eq_ofDigits]
  constructor
  · intro h
    exact ⟨h.length, h.low, h.high, h.digits⟩
  · rintro ⟨length, low, high, digits⟩
    exact ⟨length, low, high, digits⟩

example : IsDeadline (List.replicate 8 255) (-1) := isDeadline_iff.2 (by decide)

/-- What is read is what stands there: the bytes of a deadline and those of the value. -/
theorem splitDeadline?_eq_some_iff {stored b : Bytes} {d : Int} :
    splitDeadline? stored = some (d, b) ↔ ∃ front, stored = front ++ b ∧ IsDeadline front d := by
  constructor
  · intro h
    rw [splitDeadline?] at h
    split at h
    next => cases h
    next long =>
      obtain ⟨rfl, rfl⟩ := Prod.mk.inj (Option.some.inj h)
      refine ⟨stored.take deadlineLength, (List.take_append_drop deadlineLength stored).symm, ?_⟩
      exact isDeadline_iff.2 ⟨List.length_take_of_le (Nat.not_lt.1 long), rfl⟩
  · rintro ⟨front, rfl, h⟩
    obtain ⟨length, value⟩ := isDeadline_iff.1 h
    rw [splitDeadline?_append length rfl, value]

theorem exists_isDeadline {front : Bytes} (length : front.length = deadlineLength) :
    ∃ d, IsDeadline front d :=
  ⟨_, isDeadline_iff.2 ⟨length, rfl⟩⟩

theorem exists_withDeadline {d : Int} (b : Bytes) (low : -latestDeadline ≤ d + 1)
    (high : d ≤ latestDeadline) : ∃ front, withDeadline d b = front ++ b ∧ IsDeadline front d :=
  splitDeadline?_eq_some_iff.1 (splitDeadline?_withDeadline b low high)

/-! ### What a span makes the deadline -/

theorem deadlineAfter_eq {now : Clock} {ttl : Span}
    (h : 0 ≤ now.wallMillis ∨ (ttl.millis : Int) ≤ latestDeadline) :
    deadlineAfter now ttl = min (now.wallMillis + ttl.millis) latestDeadline := by
  have latest : 0 ≤ latestDeadline := by decide
  rw [deadlineAfter]
  omega

theorem le_deadlineAfter {now : Clock} (counted : now.IsCounted) (ttl : Span) :
    now.wallMillis ≤ deadlineAfter now ttl := by
  have latest : 0 ≤ latestDeadline := by decide
  have high := counted.2
  rw [deadlineAfter]
  omega

namespace Mapped

variable {m : Mapped} {key : String} {stored b : Bytes} {d : Int} {t : Clock}

/-! ### Reading -/

theorem get_of_short (found : Keyed.find? key m.values = some stored)
    (short : stored.length < deadlineLength) (t : Clock) :
    m.get t key = (.error (.corrupt key .short), m) := by
  have none : splitDeadline? stored = none := if_pos short
  rw [get, found]
  simp only [none]

theorem get_of_early (found : Keyed.find? key m.values = some stored)
    (split : splitDeadline? stored = some (d, b)) (early : t.wallMillis < d) :
    m.get t key = (.ok (some b), { m with hits := m.hits + 1 }) := by
  rw [get, found]
  simp only [split]
  rw [if_neg (Int.not_le.2 early)]

theorem get_of_late (found : Keyed.find? key m.values = some stored)
    (split : splitDeadline? stored = some (d, b)) (late : d ≤ t.wallMillis) :
    m.get t key = (.ok none, { (m.delete key).2 with misses := m.misses + 1 }) := by
  rw [get, found]
  simp only [split]
  rw [if_pos late]

/-- A value that is there is deleted, or else the map is full and nothing changes. -/
theorem delete_cases (found : Keyed.find? key m.values = some stored) :
    ((m.delete key).1 = .ok true ∧ Keyed.find? key (m.delete key).2.values = none) ∨
      ((m.delete key).1 = .error noRoom ∧ (m.delete key).2 = m) := by
  rw [delete, found]
  simp only
  cases m.file.delete? key with
  | some file =>
    refine .inl ⟨rfl, ?_⟩
    rw [Keyed.find?_erase, if_pos rfl]
  | none => exact .inr ⟨rfl, rfl⟩

/-- How bytes under a key are read, at every time: too few are corrupt, and all others are a deadline
and a value. A value whose time has passed is absent, whether it can be deleted or not. -/
structure Decodes (m : Mapped) (key : String) (stored : Bytes) : Prop where
  short : stored.length < deadlineLength → ∀ t, m.get t key = (.error (.corrupt key .short), m)
  total : deadlineLength ≤ stored.length → ∃ front b d, stored = front ++ b ∧ IsDeadline front d
  early : ∀ front b d, stored = front ++ b → IsDeadline front d → ∀ t : Clock, t.wallMillis < d →
    m.get t key = (.ok (some b), { m with hits := m.hits + 1 })
  late : ∀ front b d, stored = front ++ b → IsDeadline front d → ∀ t : Clock, d ≤ t.wallMillis →
    m.get t key = (.ok none, { (m.delete key).2 with misses := m.misses + 1 })
  removal : ((m.delete key).1 = .ok true ∧ Keyed.find? key (m.delete key).2.values = none) ∨
    ((m.delete key).1 = .error noRoom ∧ (m.delete key).2 = m)

theorem decodes_of_find? (found : Keyed.find? key m.values = some stored) :
    m.Decodes key stored where
  short := get_of_short found
  total := by
    intro long
    obtain ⟨d, front⟩ := exists_isDeadline (List.length_take_of_le long)
    exact ⟨_, _, d, (List.take_append_drop deadlineLength stored).symm, front⟩
  early := fun front _ _ parts h _ early =>
    get_of_early found (splitDeadline?_eq_some_iff.2 ⟨front, parts, h⟩) early
  late := fun front _ _ parts h _ late =>
    get_of_late found (splitDeadline?_eq_some_iff.2 ⟨front, parts, h⟩) late
  removal := delete_cases found

/-! ### Writing -/

/-- What a store makes of a value that it has taken for a span. -/
structure Keeps (m : Mapped) (now : Clock) (key : String) (b : Bytes) (ttl : Span) : Prop where
  stands : ∃ front, Keyed.find? key m.values = some (front ++ b) ∧
    IsDeadline front (deadlineAfter now ttl)
  sum : 0 ≤ now.wallMillis ∨ (ttl.millis : Int) ≤ latestDeadline →
    deadlineAfter now ttl = min (now.wallMillis + ttl.millis) latestDeadline
  capped : latestDeadline ≤ ttl.millis →
    deadlineAfter now ttl = min (now.wallMillis + latestDeadline) latestDeadline
  not_past : now.wallMillis ≤ deadlineAfter now ttl ∧
    (now.wallMillis < deadlineAfter now ttl ↔ 0 < ttl.millis)
  given_iff : ∀ t : Clock, (m.get t key).1 = .ok (some b) ↔ t.wallMillis < deadlineAfter now ttl
  absent : ∀ t : Clock, deadlineAfter now ttl ≤ t.wallMillis → (m.get t key).1 = .ok none
  removed : ∀ t : Clock, deadlineAfter now ttl ≤ t.wallMillis → (m.delete key).1 = .ok true →
    Keyed.find? key (m.get t key).2.values = none
  left : ∀ t : Clock, deadlineAfter now ttl ≤ t.wallMillis → (m.delete key).1 = .error noRoom →
    (m.get t key).2.values = m.values

theorem keeps_of_find? {now : Clock} {ttl : Span} (counted : now.IsCounted)
    (found : Keyed.find? key m.values = some (withDeadline (deadlineAfter now ttl) b)) :
    m.Keeps now key b ttl := by
  obtain ⟨low, high⟩ := deadlineAfter_bounds counted ttl
  have split := splitDeadline?_withDeadline b low high
  exact {
    stands := by
      obtain ⟨front, parts, h⟩ := exists_withDeadline b low high
      exact ⟨front, parts ▸ found, h⟩
    sum := deadlineAfter_eq
    capped := by
      intro long
      rw [deadlineAfter, Int.min_eq_right long]
    not_past := ⟨le_deadlineAfter counted ttl, lt_deadlineAfter_iff counted⟩
    given_iff := by
      intro t
      constructor
      · intro given
        refine Int.not_le.1 fun late => ?_
        rw [get_of_late found split late] at given
        cases given
      · intro early
        rw [get_of_early found split early]
    absent := fun t late => by rw [get_of_late found split late]
    removed := by
      intro t late deletes
      rw [get_of_late found split late]
      exact ((delete_cases found).resolve_right fun full => by simp [full.1] at deletes).2
    left := by
      intro t late full
      rw [get_of_late found split late]
      exact congrArg (·.values) (delete_of_error full) }

/-- Whatever the span is, a value that is taken is given out, and as it was, until its deadline and never
from then on. Under whatever key they stand, any other bytes are read alike. -/
theorem keeps_deadline {now : Clock} {ttl : Span} (counted : now.IsCounted)
    (taken : (m.set now key b ttl).1 = .ok ()) :
    (m.set now key b ttl).2.Keeps now key b ttl ∧
      ∀ (n : Mapped) (other : String) (stored : Bytes),
        Keyed.find? other n.values = some stored → n.Decodes other stored :=
  ⟨keeps_of_find? counted (find?_set taken), fun _ _ _ found => decodes_of_find? found⟩

/-- The longest span of all, one millisecond before the latest deadline. -/
theorem keeps_deadline_latest :
    let now : Clock := ⟨.zero, latestDeadline - 1⟩
    let m := Mapped.ofValues [] (Pages.countOf 1)
    now.IsCounted ∧ (m.set now "support:timeline:a" [0x78] .longest).1 = .ok () ∧
      (m.set now "support:timeline:a" [0x78] .longest).2.Keeps now "support:timeline:a" [0x78]
        .longest := by
  intro now m
  have counted : now.IsCounted := by decide
  have taken : (m.set now "support:timeline:a" [0x78] .longest).1 = .ok () := rfl
  exact ⟨counted, taken, (keeps_deadline counted taken).1⟩

/-! ### A full map -/

theorem length_withDeadline (d : Int) (b : Bytes) :
    (withDeadline d b).length = deadlineLength + b.length := by
  rw [withDeadline, List.length_append, leastBytes_length]

theorem set_of_room {now : Clock} {ttl : Span} {file : Pages}
    (room : m.file.put? key (deadlineLength + b.length) = some file) :
    m.set now key b ttl = (.ok (), { m with
      values := Keyed.insert key (withDeadline (deadlineAfter now ttl) b) m.values
      file := file }) := by
  simp only [set, length_withDeadline, room]

/-- The value of a moment, in a map of one mebibyte. -/
def momentary : Mapped :=
  ((ofValues [] (Pages.countOf 1)).set ⟨.zero, 1704067200000⟩ "support:timeline:brief" [0x78] .zero).2

/-- Values that fill the map keep the page that a deletion would take. -/
theorem full_beside_momentary : ∃ file,
    momentary.file.put? "support:timeline:large" (deadlineLength + 1022000) = some file ∧
      file.delete? "support:timeline:brief" = none := by
  refine ⟨((momentary.file.put? "support:timeline:large" (deadlineLength + 1022000)).get ?_), ?_, ?_⟩
  · decide +kernel
  · exact (Option.some_get _).symm
  · decide +kernel

theorem momentary_stays {b : Bytes} (long : b.length = 1022000) :
    let now : Clock := ⟨.zero, 1704067200000⟩
    let m := (momentary.set now "support:timeline:large" b (.ofSeconds 60)).2
    (m.get now "support:timeline:brief").1 = .ok none ∧
      Keyed.find? "support:timeline:brief" (m.get now "support:timeline:brief").2.values =
        some (withDeadline now.wallMillis [0x78]) := by
  intro now m
  obtain ⟨file, room, full⟩ := full_beside_momentary
  rw [← long] at room
  have taken : momentary.set now "support:timeline:large" b (.ofSeconds 60) = _ := set_of_room room
  have apart : "support:timeline:brief" ≠ "support:timeline:large" := by decide
  have before : Keyed.find? "support:timeline:brief" momentary.values =
      some (withDeadline now.wallMillis [0x78]) := by decide
  have found : Keyed.find? "support:timeline:brief" m.values =
      some (withDeadline now.wallMillis [0x78]) := by
    rw [← before, ← Keyed.find?_insert_of_ne _ momentary.values apart]
    exact congrArg (fun r => Keyed.find? "support:timeline:brief" r.2.values) taken
  have stuck : (m.delete "support:timeline:brief").2 = m := by
    have held : m.file = file := congrArg (·.2.file) taken
    rw [delete, found]
    simp only [held, full]
  have parts := splitDeadline?_withDeadline [0x78] (d := now.wallMillis) (by decide) (by decide)
  have read := get_of_late found parts (Int.le_refl now.wallMillis)
  rw [read, stuck]
  exact ⟨rfl, found⟩

/-- A value whose time has passed is not always removed, and before 1970 the longest spans end before the
latest deadline. -/
theorem expired_value_stays :
    (let now : Clock := ⟨.zero, 1704067200000⟩
      let m := (momentary.set now "support:timeline:large" (List.replicate 1022000 97) (.ofSeconds 60)).2
      (m.get now "support:timeline:brief").1 = .ok none ∧
        Keyed.find? "support:timeline:brief" (m.get now "support:timeline:brief").2.values =
          some (withDeadline now.wallMillis [0x78])) ∧
    (let now : Clock := ⟨.zero, -1⟩
      let m := ((ofValues [] (Pages.countOf 1)).set now "support:timeline:brief" [0x78] .longest).2
      (m.get ⟨.zero, latestDeadline - 1⟩ "support:timeline:brief").1 = .ok none ∧
        latestDeadline - 1 < min (now.wallMillis + Span.longest.millis) latestDeadline) :=
  ⟨momentary_stays List.length_replicate, rfl, by decide⟩

end Mapped
end Casebook.Cache
