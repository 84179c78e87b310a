import Casebook.Proofs.Cache.Loading

/-!
# Stores that are alike in one slot

Two stores in memory that refuse the same calls and find the same under a key answer every call about
that key alike and stay alike, whatever else they keep. Calls about other keys do not show.
-/

namespace Casebook.Cache

inductive Store.Alike (key : String) : Store → Store → Prop where
  | memory {m m' : Memory} (same : Keyed.find? key m.values = Keyed.find? key m'.values) :
    Alike key (.memory m) (.memory m')
  | refusing {r : List Call} {m m' : Memory}
    (same : Keyed.find? key m.values = Keyed.find? key m'.values) :
    Alike key (.refusing r m) (.refusing r m')

namespace Memory

variable {key other : String} {m m' : Memory}

theorem live?_congr (same : Keyed.find? key m.values = Keyed.find? key m'.values) (now : Clock) :
    m.live? now key = m'.live? now key := by
  rw [live?, live?, same]

theorem get_congr (same : Keyed.find? key m.values = Keyed.find? key m'.values) (now : Clock) :
    (m.get now key).1 = (m'.get now key).1 ∧
      Keyed.find? key (m.get now key).2.values = Keyed.find? key (m'.get now key).2.values := by
  rw [get_fst, get_fst, find?_get, find?_get, live?_congr same, same]
  exact ⟨rfl, rfl⟩

theorem set_congr (now : Clock) (b : Bytes) (ttl : Span) :
    Keyed.find? key (m.set now key b ttl).values = Keyed.find? key (m'.set now key b ttl).values := by
  rw [find?_set, find?_set, if_pos rfl, if_pos rfl]

theorem delete_congr (same : Keyed.find? key m.values = Keyed.find? key m'.values) :
    (m.delete key).1 = (m'.delete key).1 ∧
      Keyed.find? key (m.delete key).2.values = Keyed.find? key (m'.delete key).2.values := by
  refine ⟨?_, ?_⟩
  · rw [delete, delete, same]
  · rw [find?_delete, find?_delete, if_pos rfl, if_pos rfl]

end Memory

namespace Store.Alike

variable {key other : String} {s s' : Store}

theorem refl_of_inside {m : Memory} (h : s.inside? = some m) (key : String) : Alike key s s := by
  cases s with
  | memory m => exact .memory rfl
  | mapped m => cases h
  | unreachable n => cases h
  | refusing r m => exact .refusing rfl

theorem slot?_eq (h : Alike key s s') : s.slot? key = s'.slot? key := by
  cases h with
  | memory same => exact congrArg (Option.map Slot.held) same
  | refusing same => exact congrArg (Option.map Slot.held) same

/-! ### Calls about the key -/

theorem get (h : Alike key s s') (now : Clock) : (s.get now key).1 = (s'.get now key).1 ∧
    Alike key (s.get now key).2 (s'.get now key).2 := by
  cases h with
  | memory same =>
    obtain ⟨answer, left⟩ := Memory.get_congr same now
    exact ⟨congrArg Except.ok answer, .memory left⟩
  | refusing same =>
    obtain ⟨answer, left⟩ := Memory.get_congr same now
    rw [Store.get, Store.get]
    split
    next => exact ⟨rfl, .refusing same⟩
    next => exact ⟨congrArg Except.ok answer, .refusing left⟩

theorem set (h : Alike key s s') (now : Clock) (b : Bytes) (ttl : Span) :
    (s.set now key b ttl).1 = (s'.set now key b ttl).1 ∧
      Alike key (s.set now key b ttl).2 (s'.set now key b ttl).2 := by
  cases h with
  | memory same => exact ⟨rfl, .memory (Memory.set_congr now b ttl)⟩
  | refusing same =>
    rw [Store.set, Store.set]
    split
    next => exact ⟨rfl, .refusing same⟩
    next => exact ⟨rfl, .refusing (Memory.set_congr now b ttl)⟩

theorem delete (h : Alike key s s') : (s.delete key).1 = (s'.delete key).1 ∧
    Alike key (s.delete key).2 (s'.delete key).2 := by
  cases h with
  | memory same =>
    obtain ⟨answer, left⟩ := Memory.delete_congr same
    exact ⟨congrArg Except.ok answer, .memory left⟩
  | refusing same =>
    obtain ⟨answer, left⟩ := Memory.delete_congr same
    rw [Store.delete, Store.delete]
    split
    next => exact ⟨rfl, .refusing same⟩
    next => exact ⟨congrArg Except.ok answer, .refusing left⟩

theorem load {c : CaseId} (h : Alike (keyOf c) s s') (now : Clock) :
    (s.load now c).1 = (s'.load now c).1 ∧ Alike (keyOf c) (s.load now c).2 (s'.load now c).2 := by
  obtain ⟨answer, left⟩ := h.get now
  rcases hg : (s'.get now (keyOf c)).1 with f | _ | b
  · rw [load_of_error hg, load_of_error (answer.trans hg)]
    exact ⟨rfl, left⟩
  · rw [load_of_none hg, load_of_none (answer.trans hg)]
    exact ⟨rfl, left⟩
  · have hits : Alike (keyOf c) s.hit s'.hit := by
      rw [← get_of_some hg, ← get_of_some (answer.trans hg)]
      exact left
    rw [load_of_some hg, load_of_some (answer.trans hg)]
    -- Both hold the same bytes, so that both discard them or neither does.
    split
    next => exact ⟨rfl, hits⟩
    next => exact ⟨rfl, hits.delete.2⟩

theorem setRefused (h : Alike key s s') (refused : List Call) :
    Alike key (s.setRefused refused) (s'.setRefused refused) := by
  cases h with
  | memory same => exact .memory same
  | refusing same => exact .refusing same

/-! ### Calls about other keys -/

theorem get_other (h : Alike key s s') (ne : key ≠ other) (now : Clock) :
    Alike key (s.get now other).2 s' := by
  have inMemory : ∀ m : Memory,
      Keyed.find? key (m.get now other).2.values = Keyed.find? key m.values := by
    intro m
    rw [Memory.find?_get, if_neg fun asked => ne asked.1]
  cases h with
  | memory same => exact .memory ((inMemory _).trans same)
  | refusing same =>
    rw [Store.get]
    split
    next => exact .refusing same
    next => exact .refusing ((inMemory _).trans same)

theorem set_other (h : Alike key s s') (ne : key ≠ other) (now : Clock) (b : Bytes) (ttl : Span) :
    Alike key (s.set now other b ttl).2 s' := by
  have inMemory : ∀ m : Memory,
      Keyed.find? key (m.set now other b ttl).values = Keyed.find? key m.values := by
    intro m
    rw [Memory.find?_set, if_neg ne]
  cases h with
  | memory same => exact .memory ((inMemory _).trans same)
  | refusing same =>
    rw [Store.set]
    split
    next => exact .refusing same
    next => exact .refusing ((inMemory _).trans same)

theorem delete_other (h : Alike key s s') (ne : key ≠ other) :
    Alike key (s.delete other).2 s' := by
  have inMemory : ∀ m : Memory,
      Keyed.find? key (m.delete other).2.values = Keyed.find? key m.values := by
    intro m
    rw [Memory.find?_delete, if_neg ne]
  cases h with
  | memory same => exact .memory ((inMemory _).trans same)
  | refusing same =>
    rw [Store.delete]
    split
    next => exact .refusing same
    next => exact .refusing ((inMemory _).trans same)

theorem load_other {c : CaseId} (h : Alike key s s') (ne : key ≠ keyOf c) (now : Clock) :
    Alike key (s.load now c).2 s' := by
  have left := h.get_other ne now
  rcases hg : (s.get now (keyOf c)).1 with f | _ | b
  · rw [load_of_error hg]
    exact left
  · rw [load_of_none hg]
    exact left
  · rw [get_of_some hg] at left
    rw [load_of_some hg]
    split
    next => exact left
    next => exact left.delete_other ne

end Store.Alike
end Casebook.Cache
