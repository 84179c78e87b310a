import Casebook.Cache.Requests
import Casebook.Proofs.Cache.Loading

/-!
# Agreement of stores

A memory store and a mapped store that start without values answer alike, call after call, while no time
passes: both as an ideal store does, which remembers each value and for how long it was to be kept. A
value that is kept for no time is counted and can be deleted until it is asked for, and is gone then. The
one thing that a mapped store needs for this is room in its file.
-/

namespace Casebook

/-- Whether a span is nothing, or so long that milliseconds tell it from nothing. -/
def Span.IsClear (t : Span) : Prop := t = .zero ∨ .ofMillis 1 ≤ t

instance (t : Span) : Decidable t.IsClear := inferInstanceAs (Decidable (_ ∨ _))

theorem Span.IsClear.millis_pos_iff {t : Span} (clear : t.IsClear) : 0 < t.millis ↔ t ≠ .zero := by
  rcases clear with rfl | long
  · decide
  · have lasting : 1000000 ≤ t.nanos := long
    have positive : 0 < t.millis := Nat.div_pos lasting (by decide)
    refine ⟨fun _ none => ?_, fun _ => positive⟩
    rw [none] at positive
    exact absurd positive (by decide)

namespace Cache

def Request.IsClear : Request → Prop
  | .set _ _ ttl => ttl.IsClear
  | _ => True

instance : ∀ q : Request, Decidable q.IsClear
  | .set _ _ ttl => inferInstanceAs (Decidable ttl.IsClear)
  | .get _ => instDecidableTrue
  | .delete _ => instDecidableTrue
  | .ping => instDecidableTrue
  | .stats => instDecidableTrue

namespace Store

/-- The replies of a store to requests, one after the other, while no time passes. -/
def replies (now : Clock) : Store → List Request → List Reply
  | _, [] => []
  | s, q :: qs => (s.handle now q).1 :: replies now (s.handle now q).2 qs

/-- Whether the file of a mapped store has the pages that a request writes: what is asked for is deleted
if its time has passed. -/
def HasRoomFor (now : Clock) : Store → Request → Prop
  | .mapped m, .set c b _ => (m.file.put? (keyOf c) (deadlineLength + b.length)).isSome
  | .mapped m, .get c => ((Store.mapped m).slot? (keyOf c)).bind (Slot.live? now) = none →
    (Keyed.find? (keyOf c) m.values).isSome → (m.file.delete? (keyOf c)).isSome
  | .mapped m, .delete c =>
    (Keyed.find? (keyOf c) m.values).isSome → (m.file.delete? (keyOf c)).isSome
  | _, _ => True

def HasRoom (now : Clock) : Store → List Request → Prop
  | _, [] => True
  | s, q :: qs => s.HasRoomFor now q ∧ HasRoom now (s.handle now q).2 qs

instance (now : Clock) : ∀ (s : Store) (q : Request), Decidable (s.HasRoomFor now q)
  | .mapped _, .set .. => inferInstanceAs (Decidable (Option.isSome _ = true))
  | .mapped _, .get _ => inferInstanceAs (Decidable (_ = none → Option.isSome _ = true → _))
  | .mapped _, .delete _ =>
    inferInstanceAs (Decidable (Option.isSome _ = true → Option.isSome _ = true))
  | .mapped _, .ping => instDecidableTrue
  | .mapped _, .stats => instDecidableTrue
  | .memory _, _ => instDecidableTrue
  | .unreachable _, _ => instDecidableTrue
  | .refusing .., _ => instDecidableTrue

instance decidableHasRoom (now : Clock) : ∀ (s : Store) (qs : List Request), Decidable (s.HasRoom now qs)
  | _, [] => instDecidableTrue
  | s, q :: qs =>
    have := decidableHasRoom now (s.handle now q).2 qs
    inferInstanceAs (Decidable (s.HasRoomFor now q ∧ HasRoom now (s.handle now q).2 qs))

end Store

/-! ### Ideal stores -/

structure Kept where
  bytes : Bytes
  ttl : Span

/-- A store without clock, file or keys: each case has one value at most. -/
structure Ideal where
  kept : List (CaseId × Kept)
  hits : Nat
  misses : Nat

namespace Ideal

def empty : Ideal := ⟨[], 0, 0⟩

def find? (r : Ideal) (c : CaseId) : Option Kept := r.kept.lookup c

def without (r : Ideal) (c : CaseId) : List (CaseId × Kept) := r.kept.filter fun v => v.1 ≠ c

/-- The value of a case, unless it is kept for no time. -/
def live? (r : Ideal) (c : CaseId) : Option Bytes :=
  ((r.find? c).filter fun v => v.ttl ≠ .zero).map (·.bytes)

def handle (r : Ideal) : Request → Reply × Ideal
  | .set c b ttl => (.done, { r with kept := (c, ⟨b, ttl⟩) :: r.without c })
  | .get c =>
    match r.live? c with
    | some b => (.found (some b), { r with hits := r.hits + 1 })
    | none => (.found none, { r with kept := r.without c, misses := r.misses + 1 })
  | .delete c => (.existed (r.find? c).isSome, { r with kept := r.without c })
  | .ping => (.done, r)
  | .stats => (.counts ⟨r.hits, r.misses, r.kept.length⟩, r)

def replies : Ideal → List Request → List Reply
  | _, [] => []
  | r, q :: qs => (r.handle q).1 :: replies (r.handle q).2 qs

end Ideal

/-! ### Stores that show an ideal one -/

section
variable {β : Type} {form : Kept → β} {values : List (String × β)} {kept : List (CaseId × Kept)}

def picture (form : Kept → β) (v : CaseId × Kept) : String × β := (keyOf v.1, form v.2)

theorem find?_map_picture (form : Kept → β) (kept : List (CaseId × Kept)) (c : CaseId) :
    Keyed.find? (keyOf c) (kept.map (picture form)) = (kept.lookup c).map form := by
  induction kept with
  | nil => rfl
  | cons v kept ih =>
    obtain ⟨d, v⟩ := v
    rw [List.map_cons, picture, Keyed.find?_cons, List.lookup_cons]
    by_cases same : c = d
    · rw [if_pos (same ▸ rfl), same, beq_self_eq_true]
      rfl
    · have other : keyOf d ≠ keyOf c := fun hk => same (keyOf_injective hk).symm
      rw [if_neg other, beq_false_of_ne same]
      exact ih

theorem erase_map_picture (form : Kept → β) (kept : List (CaseId × Kept)) (c : CaseId) :
    Keyed.erase (keyOf c) (kept.map (picture form)) =
      (kept.filter fun v => v.1 ≠ c).map (picture form) := by
  rw [Keyed.erase, List.filter_map]
  refine congrArg (List.map _) (List.filter_congr fun v _ => ?_)
  have same : keyOf v.1 = keyOf c ↔ v.1 = c := ⟨keyOf_injective, congrArg keyOf⟩
  simp [picture, same]

/-- The values under the keys of a store are what an ideal store keeps, in the form that they have in the
store. -/
structure Pictures (form : Kept → β) (values : List (String × β)) (kept : List (CaseId × Kept)) :
    Prop where
  sorted : Keyed.Sorted values
  perm : values.Perm (kept.map (picture form))

namespace Pictures

theorem nil (form : Kept → β) : Pictures form [] [] := ⟨Keyed.sorted_nil, .refl _⟩

theorem find?_eq (h : Pictures form values kept) (c : CaseId) :
    Keyed.find? (keyOf c) values = (kept.lookup c).map form := by
  rw [Keyed.find?_perm h.perm (Keyed.nodup_of_sorted h.sorted), find?_map_picture]

theorem erase (h : Pictures form values kept) (c : CaseId) :
    Pictures form (Keyed.erase (keyOf c) values) (kept.filter fun v => v.1 ≠ c) where
  sorted := Keyed.sorted_erase _ h.sorted
  perm := by
    rw [← erase_map_picture]
    exact h.perm.filter _

theorem insert (h : Pictures form values kept) (c : CaseId) (v : Kept) :
    Pictures form (Keyed.insert (keyOf c) (form v) values)
      ((c, v) :: kept.filter fun v => v.1 ≠ c) where
  sorted := Keyed.sorted_insert _ _ h.sorted
  perm := (Keyed.insert_perm _ _ h.sorted).trans ((h.erase c).perm.cons _)

theorem length_eq (h : Pictures form values kept) : values.length = kept.length := by
  rw [h.perm.length_eq, List.length_map]

end Pictures
end

def heldFor (now : Clock) (v : Kept) : Held := ⟨v.bytes, now.deadline v.ttl⟩

def writtenFor (now : Clock) (v : Kept) : Bytes := withDeadline (deadlineAfter now v.ttl) v.bytes

/-- A store shows an ideal one: its counts, and its values with the deadlines that they were given. -/
inductive Shows (now : Clock) (r : Ideal) : Store → Prop where
  | memory {values : List (String × Held)} (kept : Pictures (heldFor now) values r.kept) :
    Shows now r (.memory ⟨values, r.hits, r.misses⟩)
  | mapped {values : List (String × Bytes)} {file : Pages}
    (kept : Pictures (writtenFor now) values r.kept) (clear : ∀ v ∈ r.kept, v.2.ttl.IsClear) :
    Shows now r (.mapped ⟨values, r.hits, r.misses, file⟩)

section
variable {now : Clock} {r : Ideal} {q : Request} {c : CaseId}

theorem Ideal.live?_of_find? {v : Kept} (found : r.find? c = some v) :
    r.live? c = if v.ttl = .zero then none else some v.bytes := by
  rw [live?, found, Option.filter_some]
  by_cases brief : v.ttl = .zero
  · rw [if_pos brief, if_neg (by simpa using brief)]
    rfl
  · rw [if_neg brief, if_pos (decide_eq_true brief)]
    rfl

theorem Ideal.live?_of_absent (absent : r.find? c = none) : r.live? c = none := by
  rw [live?, absent]
  rfl

/-! ### Memory stores -/

theorem live?_of_pictures {m : Memory} (kept : Pictures (heldFor now) m.values r.kept) (c : CaseId) :
    m.live? now (keyOf c) = r.live? c := by
  rw [Memory.live?, kept.find?_eq]
  cases found : r.find? c with
  | none =>
    have absent : r.kept.lookup c = none := found
    rw [absent, Ideal.live?_of_absent found]
    rfl
  | some v =>
    have present : r.kept.lookup c = some v := found
    rw [present, Ideal.live?_of_find? found, Option.map_some, Option.filter_some, heldFor]
    by_cases brief : v.ttl = .zero
    · have ended : ¬now.elapsed < now.deadline v.ttl := by
        rw [Clock.lt_deadline_iff, brief]
        exact Nat.lt_irrefl 0
      rw [if_pos brief, if_neg (by simpa using ended)]
      rfl
    · have early : now.elapsed < now.deadline v.ttl :=
        Clock.lt_deadline_iff.2 (Nat.pos_of_ne_zero fun none => brief (congrArg Span.mk none))
      rw [if_neg brief, if_pos (decide_eq_true early)]
      rfl

theorem shows_memory {m : Memory} (kept : Pictures (heldFor now) m.values r.kept)
    (hits : m.hits = r.hits) (misses : m.misses = r.misses) : Shows now r (.memory m) := by
  obtain ⟨values, h, l⟩ := m
  cases hits
  cases misses
  exact .memory kept

theorem agree_memory {m : Memory} (kept : Pictures (heldFor now) m.values r.kept)
    (hits : m.hits = r.hits) (misses : m.misses = r.misses) (q : Request) :
    ((Store.memory m).handle now q).1 = (r.handle q).1 ∧
      Shows now (r.handle q).2 ((Store.memory m).handle now q).2 := by
  cases q with
  | set c b ttl => exact ⟨rfl, shows_memory (kept.insert c ⟨b, ttl⟩) hits misses⟩
  | get c =>
    have live := live?_of_pictures kept c
    simp only [Store.handle, Store.get, Memory.get, Ideal.handle, live]
    cases r.live? c with
    | none => exact ⟨rfl, shows_memory (kept.erase c) hits (congrArg (· + 1) misses)⟩
    | some b => exact ⟨rfl, shows_memory kept (congrArg (· + 1) hits) misses⟩
  | delete c =>
    have existed : (m.delete (keyOf c)).1 = (r.find? c).isSome := by
      rw [Memory.delete, kept.find?_eq, Option.isSome_map]
      rfl
    exact ⟨congrArg Reply.existed existed, shows_memory (kept.erase c) hits misses⟩
  | ping => exact ⟨rfl, shows_memory kept hits misses⟩
  | stats =>
    have counted : m.stats = ⟨r.hits, r.misses, r.kept.length⟩ := by
      rw [Memory.stats, hits, misses, kept.length_eq]
    exact ⟨congrArg Reply.counts counted, shows_memory kept hits misses⟩

/-! ### Mapped stores -/

theorem splitDeadline?_writtenFor (counted : now.IsCounted) (v : Kept) :
    splitDeadline? (writtenFor now v) = some (deadlineAfter now v.ttl, v.bytes) := by
  obtain ⟨low, high⟩ := deadlineAfter_bounds counted v.ttl
  exact splitDeadline?_withDeadline v.bytes low high

theorem deadlineAfter_le_iff (counted : now.IsCounted) {t : Span} (clear : t.IsClear) :
    deadlineAfter now t ≤ now.wallMillis ↔ t = .zero := by
  rw [← Int.not_lt, lt_deadlineAfter_iff counted, clear.millis_pos_iff, Ne, Classical.not_not]

theorem delete_of_pictures {m : Mapped} (kept : Pictures (writtenFor now) m.values r.kept)
    (room : (Keyed.find? (keyOf c) m.values).isSome → (m.file.delete? (keyOf c)).isSome) :
    ∃ file, m.delete (keyOf c) = (.ok (r.find? c).isSome,
      { m with values := Keyed.erase (keyOf c) m.values, file := file }) := by
  have existed : (r.find? c).isSome = (Keyed.find? (keyOf c) m.values).isSome := by
    rw [kept.find?_eq, Option.isSome_map]
    rfl
  rw [existed, Mapped.delete]
  cases found : Keyed.find? (keyOf c) m.values with
  | none => exact ⟨m.file, by rw [Keyed.erase_of_find?_none found]; rfl⟩
  | some stored =>
    obtain ⟨file, hfile⟩ := Option.isSome_iff_exists.1 (room (by rw [found]; rfl))
    exact ⟨file, by rw [hfile]; rfl⟩

theorem get_of_pictures {m : Mapped} (counted : now.IsCounted)
    (kept : Pictures (writtenFor now) m.values r.kept) (clear : ∀ v ∈ r.kept, v.2.ttl.IsClear)
    (room : (Store.mapped m).HasRoomFor now (.get c)) :
    match r.live? c with
    | some b => m.get now (keyOf c) = (.ok (some b), { m with hits := m.hits + 1 })
    | none => ∃ file, m.get now (keyOf c) = (.ok none,
        { m with values := Keyed.erase (keyOf c) m.values, misses := m.misses + 1, file := file }) := by
  have found := kept.find?_eq c
  cases hr : r.kept.lookup c with
  | none =>
    rw [hr, Option.map_none] at found
    rw [Ideal.live?_of_absent hr, Mapped.get, found, Keyed.erase_of_find?_none found]
    exact ⟨m.file, rfl⟩
  | some v =>
    rw [hr, Option.map_some] at found
    have member : (c, v) ∈ r.kept := by
      obtain ⟨before, rest, split, -⟩ := List.lookup_eq_some_iff.1 hr
      rw [split]
      exact List.mem_append_right _ List.mem_cons_self
    have ended := deadlineAfter_le_iff counted (clear _ member)
    rw [Ideal.live?_of_find? hr, Mapped.get, found]
    simp only [splitDeadline?_writtenFor counted]
    -- Only a value that was kept for no time is deleted here, and only then a page is needed.
    by_cases brief : v.ttl = .zero
    · have dead : ((Store.mapped m).slot? (keyOf c)).bind (Slot.live? now) = none := by
        rw [Store.slot?, found, Option.map_some, Option.bind_some, Slot.live?,
          splitDeadline?_writtenFor counted]
        exact if_neg (Int.not_lt.2 (ended.2 brief))
      obtain ⟨file, deleted⟩ := delete_of_pictures kept (room dead)
      rw [if_pos brief, if_pos (ended.2 brief), deleted]
      exact ⟨file, rfl⟩
    · rw [if_neg brief, if_neg fun late => brief (ended.1 late)]

theorem shows_mapped {m : Mapped} (kept : Pictures (writtenFor now) m.values r.kept)
    (clear : ∀ v ∈ r.kept, v.2.ttl.IsClear) (hits : m.hits = r.hits) (misses : m.misses = r.misses) :
    Shows now r (.mapped m) := by
  obtain ⟨values, h, l, file⟩ := m
  cases hits
  cases misses
  exact .mapped kept clear

theorem agree_mapped {m : Mapped} (counted : now.IsCounted)
    (kept : Pictures (writtenFor now) m.values r.kept) (clear : ∀ v ∈ r.kept, v.2.ttl.IsClear)
    (hits : m.hits = r.hits) (misses : m.misses = r.misses) (asked : q.IsClear)
    (room : (Store.mapped m).HasRoomFor now q) :
    ((Store.mapped m).handle now q).1 = (r.handle q).1 ∧
      Shows now (r.handle q).2 ((Store.mapped m).handle now q).2 := by
  have others : ∀ c, ∀ v ∈ r.without c, v.2.ttl.IsClear := fun c v hv =>
    clear v (List.mem_filter.1 hv).1
  cases q with
  | set c b ttl =>
    have length : (withDeadline (deadlineAfter now ttl) b).length = deadlineLength + b.length := by
      rw [withDeadline, List.length_append, leastBytes_length]
    obtain ⟨file, hfile⟩ := Option.isSome_iff_exists.1 room
    have taken : m.set now (keyOf c) b ttl = (.ok (), { m with
        values := Keyed.insert (keyOf c) (writtenFor now ⟨b, ttl⟩) m.values, file := file }) := by
      simp only [Mapped.set, length, hfile]
      rfl
    simp only [Store.handle, Store.set, taken]
    refine ⟨rfl, shows_mapped (kept.insert c ⟨b, ttl⟩) ?_ hits misses⟩
    exact List.forall_mem_cons.2 ⟨asked, others c⟩
  | get c =>
    have given := get_of_pictures counted kept clear room
    cases live : r.live? c with
    | none =>
      rw [live] at given
      obtain ⟨file, given⟩ := given
      simp only [Store.handle, Store.get, given, Ideal.handle, live]
      exact ⟨rfl, shows_mapped (kept.erase c) (others c) hits (congrArg (· + 1) misses)⟩
    | some b =>
      rw [live] at given
      simp only [Store.handle, Store.get, given, Ideal.handle, live]
      exact ⟨rfl, shows_mapped kept clear (congrArg (· + 1) hits) misses⟩
  | delete c =>
    obtain ⟨file, deleted⟩ := delete_of_pictures kept room
    simp only [Store.handle, Store.delete, deleted]
    exact ⟨rfl, shows_mapped (kept.erase c) (others c) hits misses⟩
  | ping => exact ⟨rfl, shows_mapped kept clear hits misses⟩
  | stats =>
    have counts : m.stats = ⟨r.hits, r.misses, r.kept.length⟩ := by
      rw [Mapped.stats, hits, misses, kept.length_eq]
    exact ⟨congrArg Reply.counts counts, shows_mapped kept clear hits misses⟩

/-! ### Runs -/

theorem Shows.handle {s : Store} (h : Shows now r s) (counted : now.IsCounted) (asked : q.IsClear)
    (room : s.HasRoomFor now q) :
    (s.handle now q).1 = (r.handle q).1 ∧ Shows now (r.handle q).2 (s.handle now q).2 := by
  cases h with
  | memory kept => exact agree_memory kept rfl rfl q
  | mapped kept clear => exact agree_mapped counted kept clear rfl rfl asked room

theorem Shows.replies {s : Store} (h : Shows now r s) (counted : now.IsCounted) {qs : List Request}
    (asked : ∀ q ∈ qs, q.IsClear) (room : s.HasRoom now qs) :
    s.replies now qs = r.replies qs := by
  -- On the requests: what is shown after the first one is the ideal store after it.
  induction qs generalizing r s with
  | nil => rfl
  | cons q qs ih =>
    obtain ⟨first, rest⟩ := List.forall_mem_cons.1 asked
    obtain ⟨same, shows⟩ := h.handle counted first room.1
    rw [Store.replies, Ideal.replies, same, ih shows rest room.2]

theorem hasRoom_memory {m : Memory} {now : Clock} {qs : List Request} :
    (Store.memory m).HasRoom now qs := by
  induction qs generalizing m with
  | nil => trivial
  | cons q qs ih =>
    refine ⟨trivial, ?_⟩
    cases q with
    | set c b ttl => exact ih
    | get c => exact ih
    | delete c => exact ih
    | ping => exact ih
    | stats => exact ih

end

/-- A memory store and a mapped one that start without values answer every request as an ideal store
does, if the file of the mapped one has room and no time passes. -/
theorem Store.replies_agree {now : Clock} (counted : now.IsCounted) {qs : List Request}
    (asked : ∀ q ∈ qs, q.IsClear) {limit : Nat}
    (room : (Store.mapped (.ofValues [] limit)).HasRoom now qs) :
    (Store.memory .empty).replies now qs = Ideal.empty.replies qs ∧
      (Store.mapped (.ofValues [] limit)).replies now qs = Ideal.empty.replies qs := by
  have memory : Shows now .empty (.memory .empty) := .memory (.nil _)
  have mapped : Shows now .empty (.mapped (.ofValues [] limit)) :=
    .mapped (.nil _) fun v hv => (List.not_mem_nil hv).elim
  exact ⟨memory.replies counted asked hasRoom_memory, mapped.replies counted asked room⟩

/-- A value that is kept for no time, and one without bytes that is kept for as long as can be said. -/
def briefThenLong : List Request :=
  [.set Store.oneLetter [0x78] .zero, .stats, .get Store.oneLetter, .delete Store.oneLetter,
    .set Store.oneLetter [] .longest, .get Store.oneLetter, .stats]

theorem Store.replies_agree_briefThenLong :
    let now : Clock := ⟨.ofSeconds 1000000, 1704067200000⟩
    let mapped : Store := .mapped (.ofValues [] (Pages.countOf 1))
    let replies : List Reply := [.done, .counts ⟨0, 0, 1⟩, .found none, .existed false, .done,
      .found (some []), .counts ⟨1, 1, 1⟩]
    mapped.HasRoom now briefThenLong ∧ (Store.memory .empty).replies now briefThenLong = replies ∧
      mapped.replies now briefThenLong = replies := by
  intro now mapped replies
  have counted : now.IsCounted := by decide
  have asked : ∀ q ∈ briefThenLong, q.IsClear := by decide +kernel
  have room : mapped.HasRoom now briefThenLong := by decide +kernel
  have ideal : Ideal.empty.replies briefThenLong = replies := by decide +kernel
  have agree := Store.replies_agree counted asked room
  rw [ideal] at agree
  exact ⟨room, agree⟩

end Cache
end Casebook
