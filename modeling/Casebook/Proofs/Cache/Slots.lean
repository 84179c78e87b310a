import Casebook.Proofs.Cache.InMemory

/-!
# What stores keep under a key

The slot of a key is all that a store keeps under it, whichever kind of store it is: a value with a
deadline, or the bytes that stand in the file, which may be too few to hold a deadline. What a store
gives out is told by the slot alone. A value that is accepted fills the slot of its key and is given out
while its time has not passed, a deletion that does not fail empties the slot, and no other slot changes.
-/

namespace Casebook.Cache

inductive Slot where
  | held (h : Held)
  | written (stored : Bytes)
  deriving DecidableEq

namespace Slot

/-- The value in a slot whose time has not passed. -/
def live? (now : Clock) : Slot → Option Bytes
  | .held h => if now.elapsed < h.deadline then some h.bytes else none
  | .written stored =>
    match splitDeadline? stored with
    | none => none
    | some (deadline, b) => if now.wallMillis < deadline then some b else none

/-- Whether written bytes are too few to hold a deadline. -/
def isShort : Slot → Bool
  | .held _ => false
  | .written stored => stored.length < deadlineLength

theorem isShort_written (stored : Bytes) :
    (written stored).isShort = (splitDeadline? stored).isNone := by
  rw [splitDeadline?, isShort]
  by_cases short : stored.length < deadlineLength
  · rw [if_pos short, decide_eq_true short]
    rfl
  · rw [if_neg short, decide_eq_false short]
    rfl

theorem isShort_of_live? {now : Clock} {x : Slot} {b : Bytes} (h : x.live? now = some b) :
    x.isShort = false := by
  cases x with
  | held v => rfl
  | written stored =>
    rw [isShort_written]
    cases hs : splitDeadline? stored with
    | none =>
      rw [live?, hs] at h
      cases h
    | some p => rfl

/-- What is given out of the slot of a key. -/
def answer (now : Clock) (key : String) : Option Slot → Except CacheFault (Option Bytes)
  | none => .ok none
  | some x => if x.isShort then .error (.corrupt key .short) else .ok (x.live? now)

theorem answer_eq_ok_some_iff {now : Clock} {key : String} {x : Option Slot} {b : Bytes} :
    answer now key x = .ok (some b) ↔ x.bind (live? now) = some b := by
  cases x with
  | none => exact ⟨(nomatch ·), (nomatch ·)⟩
  | some x =>
    rw [answer, Option.bind_some]
    constructor
    · intro h
      split at h
      next => cases h
      next => exact Except.ok.inj h
    · intro h
      rw [isShort_of_live? h, h]
      rfl

theorem answer_eq_error_iff {now : Clock} {key : String} {x : Option Slot} {f : CacheFault} :
    answer now key x = .error f ↔ f = .corrupt key .short ∧ ∃ y, x = some y ∧ y.isShort = true := by
  constructor
  · intro h
    cases x with
    | none => cases h
    | some x =>
      rw [answer] at h
      split at h
      next short =>
        cases h
        exact ⟨rfl, x, rfl, short⟩
      next => cases h
  · rintro ⟨rfl, y, rfl, short⟩
    rw [answer, if_pos short]

end Slot

/-! ### Asking each kind of store -/

theorem Memory.get_eq_answer (m : Memory) (now : Clock) (key : String) :
    .ok (m.get now key).1 = Slot.answer now key ((Keyed.find? key m.values).map .held) := by
  rw [Memory.get_fst, Memory.live?]
  cases Keyed.find? key m.values with
  | none => rfl
  | some h =>
    rw [Option.map_some, Slot.answer, Slot.live?, Option.filter_some]
    by_cases early : now.elapsed < h.deadline
    · rw [if_pos early, if_pos (decide_eq_true early)]
      rfl
    · rw [if_neg early, if_neg (by simpa using early)]
      rfl

theorem Mapped.get_eq_answer (m : Mapped) (now : Clock) (key : String) :
    (m.get now key).1 = Slot.answer now key ((Keyed.find? key m.values).map .written) := by
  rw [Mapped.get]
  cases Keyed.find? key m.values with
  | none => rfl
  | some stored =>
    simp only [Option.map_some, Slot.answer, Slot.isShort_written, Slot.live?]
    cases splitDeadline? stored with
    | none => rfl
    | some p =>
      simp only [Option.isNone_some, Bool.false_eq_true, if_false]
      by_cases late : p.1 ≤ now.wallMillis
      · rw [if_pos late, if_neg (Int.not_lt.2 late)]
      · rw [if_neg late, if_pos (Int.not_le.1 late)]

/-- A value that a memory store gives out leaves no other trace than one more hit. -/
theorem Memory.get_of_some {m : Memory} {now : Clock} {key : String} {b : Bytes}
    (h : (m.get now key).1 = some b) : (m.get now key).2 = { m with hits := m.hits + 1 } := by
  rw [Memory.get_fst] at h
  rw [Memory.get, h]

theorem Mapped.get_of_some {m : Mapped} {now : Clock} {key : String} {b : Bytes}
    (h : (m.get now key).1 = .ok (some b)) :
    (m.get now key).2 = { m with hits := m.hits + 1 } := by
  rw [Mapped.get] at h ⊢
  split at h
  next => cases h
  next =>
    split at h
    next => cases h
    next =>
      split at h
      next => cases h
      next late => rw [if_neg late]

theorem Mapped.get_of_error {m : Mapped} {now : Clock} {key : String} {f : CacheFault}
    (h : (m.get now key).1 = .error f) : (m.get now key).2 = m := by
  rw [Mapped.get] at h ⊢
  split at h
  next => cases h
  next =>
    split at h
    next => rfl
    next => split at h <;> cases h

/-! ### Changing each kind of store -/

theorem Mapped.written_delete {m : Mapped} {key : String} {existed : Bool}
    (h : (m.delete key).1 = .ok existed) (other : String) :
    (Keyed.find? other (m.delete key).2.values).map Slot.written =
      if other = key then none else (Keyed.find? other m.values).map .written := by
  rw [Mapped.delete] at h ⊢
  split at h
  next absent =>
    split
    next same => rw [same, absent, Option.map_none]
    next => rfl
  next present =>
    split at h
    next file _ =>
      show (Keyed.find? other (Keyed.erase key m.values)).map Slot.written = _
      rw [Keyed.find?_erase]
      split <;> rfl
    next => cases h

theorem Mapped.delete_hits (m : Mapped) (key : String) :
    (Mapped.delete { m with hits := m.hits + 1 } key).1 = (m.delete key).1 := by
  rw [Mapped.delete, Mapped.delete]
  cases Keyed.find? key m.values with
  | none => rfl
  | some stored => cases m.file.delete? key <;> rfl

theorem Mapped.find?_set {m : Mapped} {now : Clock} {key : String} {b : Bytes} {ttl : Span}
    (h : (m.set now key b ttl).1 = .ok ()) :
    Keyed.find? key (m.set now key b ttl).2.values =
      some (withDeadline (deadlineAfter now ttl) b) := by
  simp only [Mapped.set] at h ⊢
  split at h
  next file hfile => exact Keyed.find?_insert_self key _ m.values
  next => cases h

/-- The wall clock shows milliseconds that deadlines can name, and not the latest of them. -/
def Clock.IsCounted (now : Clock) : Prop :=
  -latestDeadline ≤ now.wallMillis + 1 ∧ now.wallMillis < latestDeadline

instance (now : Clock) : Decidable now.IsCounted := inferInstanceAs (Decidable (_ ∧ _))

theorem Slot.live?_held_iff {now : Clock} {ttl : Span} {b b' : Bytes} :
    (Slot.held ⟨b, now.deadline ttl⟩).live? now = some b' ↔ 0 < ttl.nanos ∧ b = b' := by
  rw [live?, ← @Clock.lt_deadline_iff now ttl]
  split
  next early => exact ⟨fun h => ⟨early, Option.some.inj h⟩, fun h => congrArg some h.2⟩
  next late => exact ⟨(nomatch ·), fun h => absurd h.1 late⟩

theorem Slot.live?_held {now : Clock} {ttl : Span} (lasting : 0 < ttl.millis) (b : Bytes) :
    (Slot.held ⟨b, now.deadline ttl⟩).live? now = some b := by
  have some_time : 0 < ttl.nanos := by
    rw [Span.millis] at lasting
    omega
  exact live?_held_iff.2 ⟨some_time, rfl⟩

theorem deadlineAfter_bounds {now : Clock} (counted : now.IsCounted) (ttl : Span) :
    -latestDeadline ≤ deadlineAfter now ttl + 1 ∧ deadlineAfter now ttl ≤ latestDeadline := by
  have latest : latestDeadline = 9223372036854775807 := rfl
  obtain ⟨low, high⟩ := counted
  rw [deadlineAfter]
  omega

theorem lt_deadlineAfter_iff {now : Clock} (counted : now.IsCounted) {ttl : Span} :
    now.wallMillis < deadlineAfter now ttl ↔ 0 < ttl.millis := by
  have latest : latestDeadline = 9223372036854775807 := rfl
  obtain ⟨low, high⟩ := counted
  rw [deadlineAfter]
  omega

theorem Slot.live?_written {now : Clock} {ttl : Span} (counted : now.IsCounted)
    (lasting : 0 < ttl.millis) (b : Bytes) :
    (Slot.written (withDeadline (deadlineAfter now ttl) b)).live? now = some b := by
  obtain ⟨low, high⟩ := deadlineAfter_bounds counted ttl
  rw [Slot.live?, splitDeadline?_withDeadline b low high]
  exact if_pos ((lt_deadlineAfter_iff counted).2 lasting)

/-- A slot holds a value that was kept for a span by some clock. -/
inductive Slot.Keeps (now : Clock) (b : Bytes) (ttl : Span) : Slot → Prop where
  | held : Keeps now b ttl (.held ⟨b, now.deadline ttl⟩)
  | written : Keeps now b ttl (.written (withDeadline (deadlineAfter now ttl) b))

theorem Slot.Keeps.eq_of_live? {x : Slot} {now later : Clock} {b b' : Bytes} {ttl : Span}
    (h : x.Keeps now b ttl) (live : x.live? later = some b') : b' = b := by
  cases h with
  | held =>
    rw [live?] at live
    split at live
    next =>
      cases live
      rfl
    next => cases live
  | written =>
    obtain ⟨d, hd⟩ := Mapped.exists_splitDeadline? (deadlineAfter now ttl) b
    rw [live?, hd] at live
    simp only at live
    split at live
    next =>
      cases live
      rfl
    next => cases live

theorem Slot.Keeps.live?_eq {x : Slot} {now : Clock} {b : Bytes} {ttl : Span}
    (h : x.Keeps now b ttl) (counted : now.IsCounted) (lasting : 0 < ttl.millis) :
    x.live? now = some b := by
  cases h with
  | held => exact live?_held lasting b
  | written => exact live?_written counted lasting b

namespace Store

def slot? (s : Store) (key : String) : Option Slot :=
  match s with
  | .memory m => (Keyed.find? key m.values).map .held
  | .mapped m => (Keyed.find? key m.values).map .written
  | .unreachable _ => none
  | .refusing _ m => (Keyed.find? key m.values).map .held

/-- Whether calls of a kind reach the values. -/
def allows (s : Store) (call : Call) : Bool :=
  match s with
  | .unreachable _ => false
  | .refusing r _ => call ∉ r
  | _ => true

variable {s : Store} {now : Clock} {key : String}

/-! ### Asking -/

theorem get_eq_answer (h : s.allows .get = true) (now : Clock) (key : String) :
    (s.get now key).1 = Slot.answer now key (s.slot? key) := by
  cases s with
  | memory m => exact Memory.get_eq_answer m now key
  | mapped m => exact Mapped.get_eq_answer m now key
  | unreachable n => cases h
  | refusing r m =>
    have reached : Call.get ∉ r := by simpa [allows] using h
    rw [get, if_neg reached]
    exact Memory.get_eq_answer m now key

/-- A call that does not reach the values fails, and finds no damage. -/
theorem get_of_not_allows (h : s.allows .get = false) (now : Clock) (key : String) :
    ∃ name outage, (s.get now key).1 = .error (.unavailable name outage) := by
  cases s with
  | memory m => cases h
  | mapped m => cases h
  | unreachable n => exact ⟨_, _, rfl⟩
  | refusing r m =>
    have refused : Call.get ∈ r := by simpa [allows] using h
    rw [get, if_pos refused]
    exact ⟨_, _, rfl⟩

theorem allows_of_get_ok {found : Option Bytes} (h : (s.get now key).1 = .ok found) :
    s.allows .get = true := by
  cases reached : s.allows .get with
  | true => rfl
  | false =>
    obtain ⟨name, outage, refused⟩ := get_of_not_allows reached now key
    rw [refused] at h
    cases h

theorem get_eq_ok_some_iff {b : Bytes} : (s.get now key).1 = .ok (some b) ↔
    s.allows .get = true ∧ (s.slot? key).bind (Slot.live? now) = some b := by
  constructor
  · intro h
    have reached := allows_of_get_ok h
    rw [get_eq_answer reached, Slot.answer_eq_ok_some_iff] at h
    exact ⟨reached, h⟩
  · rintro ⟨reached, live⟩
    rw [get_eq_answer reached, Slot.answer_eq_ok_some_iff]
    exact live

/-- The one damage that a store finds itself: the bytes are too few. -/
theorem short_of_get_corrupt {k : String} {d : Damage}
    (h : (s.get now key).1 = .error (.corrupt k d)) :
    k = key ∧ d = .short ∧ (∃ x, s.slot? key = some x ∧ x.isShort = true) ∧
      (s.get now key).2 = s := by
  cases reached : s.allows .get with
  | false =>
    obtain ⟨name, outage, refused⟩ := get_of_not_allows reached now key
    rw [refused] at h
    cases h
  | true =>
    have same : (s.get now key).2 = s := by
      cases s with
      | memory m => cases h
      | mapped m => exact congrArg Store.mapped (Mapped.get_of_error h)
      | unreachable n => cases reached
      | refusing r m =>
        have inside : Call.get ∉ r := by simpa [allows] using reached
        rw [get, if_neg inside] at h
        cases h
    rw [get_eq_answer reached, Slot.answer_eq_error_iff] at h
    obtain ⟨hf, short⟩ := h
    cases hf
    exact ⟨rfl, rfl, short, same⟩

/-- The same store with one hit more. -/
def hit : Store → Store
  | .memory m => .memory { m with hits := m.hits + 1 }
  | .mapped m => .mapped { m with hits := m.hits + 1 }
  | .unreachable n => .unreachable n
  | .refusing r m => .refusing r { m with hits := m.hits + 1 }

theorem get_of_some {b : Bytes} (h : (s.get now key).1 = .ok (some b)) :
    (s.get now key).2 = s.hit := by
  cases s with
  | memory m => exact congrArg Store.memory (Memory.get_of_some (Except.ok.inj h))
  | mapped m => exact congrArg Store.mapped (Mapped.get_of_some h)
  | unreachable n => cases h
  | refusing r m =>
    rw [get] at h ⊢
    split at h
    next => cases h
    next refused =>
      rw [if_neg refused]
      exact congrArg (Store.refusing r) (Memory.get_of_some (Except.ok.inj h))

@[simp] theorem slot?_hit (s : Store) (key : String) : s.hit.slot? key = s.slot? key := by
  cases s <;> rfl

@[simp] theorem allows_hit (s : Store) (call : Call) : s.hit.allows call = s.allows call := by
  cases s <;> rfl

theorem get_hit {b : Bytes} (h : (s.get now key).1 = .ok (some b)) :
    (s.hit.get now key).1 = .ok (some b) := by
  rw [get_eq_ok_some_iff] at h ⊢
  rw [allows_hit, slot?_hit]
  exact h

@[simp] theorem allows_get (s : Store) (now : Clock) (key : String) (call : Call) :
    (s.get now key).2.allows call = s.allows call := by
  cases s with
  | memory m => rfl
  | mapped m => rfl
  | unreachable n => rfl
  | refusing r m =>
    rw [get]
    split <;> rfl

/-! ### Deleting -/

@[simp] theorem allows_delete (s : Store) (key : String) (call : Call) :
    (s.delete key).2.allows call = s.allows call := by
  cases s with
  | memory m => rfl
  | mapped m => rfl
  | unreachable n => rfl
  | refusing r m =>
    rw [delete]
    split <;> rfl

theorem slot?_delete {existed : Bool} (h : (s.delete key).1 = .ok existed) (other : String) :
    (s.delete key).2.slot? other = if other = key then none else s.slot? other := by
  have inMemory : ∀ m : Memory, (Keyed.find? other (m.delete key).2.values).map Slot.held =
      if other = key then none else (Keyed.find? other m.values).map .held := by
    intro m
    rw [Memory.find?_delete]
    split <;> rfl
  cases s with
  | memory m => exact inMemory m
  | mapped m => exact Mapped.written_delete h other
  | unreachable n => cases h
  | refusing r m =>
    rw [delete] at h ⊢
    split at h
    next => cases h
    next reached =>
      rw [if_neg reached]
      exact inMemory m

theorem delete_hit (s : Store) (key : String) : (s.hit.delete key).1 = (s.delete key).1 := by
  cases s with
  | memory m => rfl
  | mapped m => exact Mapped.delete_hits m key
  | unreachable n => rfl
  | refusing r m =>
    rw [hit, delete, delete]
    split <;> rfl

/-! ### Setting -/

@[simp] theorem allows_set (s : Store) (now : Clock) (key : String) (b : Bytes) (ttl : Span)
    (call : Call) : (s.set now key b ttl).2.allows call = s.allows call := by
  cases s with
  | memory m => rfl
  | mapped m => rfl
  | unreachable n => rfl
  | refusing r m =>
    rw [set]
    split <;> rfl

/-- An accepted value stands in the slot of its key. -/
theorem keeps_set (accepted : (s.set now key b ttl).1 = .ok ()) :
    ∃ x, (s.set now key b ttl).2.slot? key = some x ∧ x.Keeps now b ttl := by
  have inMemory : ∀ m : Memory, (Keyed.find? key (m.set now key b ttl).values).map Slot.held =
      some (.held ⟨b, now.deadline ttl⟩) := by
    intro m
    rw [Memory.find?_set, if_pos rfl]
    rfl
  cases s with
  | memory m => exact ⟨_, inMemory m, .held⟩
  | mapped m => exact ⟨_, congrArg (Option.map Slot.written) (Mapped.find?_set accepted), .written⟩
  | unreachable n => cases accepted
  | refusing r m =>
    rw [set] at accepted ⊢
    split at accepted
    next => cases accepted
    next inside =>
      rw [if_neg inside]
      exact ⟨_, inMemory m, .held⟩

/-- An accepted value is given out at once if it is kept for a millisecond at least. -/
theorem get_set {b : Bytes} {ttl : Span} (reached : s.allows .get = true) (counted : now.IsCounted)
    (lasting : 0 < ttl.millis) (accepted : (s.set now key b ttl).1 = .ok ()) :
    ((s.set now key b ttl).2.get now key).1 = .ok (some b) := by
  obtain ⟨x, filled, keeps⟩ := keeps_set accepted
  rw [get_eq_ok_some_iff, allows_set, filled]
  exact ⟨reached, keeps.live?_eq counted lasting⟩

end Store
end Casebook.Cache
