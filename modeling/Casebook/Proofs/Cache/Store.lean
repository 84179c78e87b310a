import Casebook.Cache.Store
import Casebook.Proofs.Text.Keyed

/-!
# What stores keep

A property of values under their keys that every written value has is had by all that a store keeps,
whatever is asked, deleted or refused and however time passes; so every value that a store gives out
has it.
-/

namespace Casebook.Cache

variable {P : String → Bytes → Prop}

/-! ### Memory stores -/

def Memory.Holds (P : String → Bytes → Prop) (m : Memory) : Prop :=
  ∀ v ∈ m.values, P v.1 v.2.bytes

namespace Memory

theorem mem_of_live? {m : Memory} {now : Clock} {key : String} {b : Bytes}
    (h : m.live? now key = some b) : ∃ v, (key, v) ∈ m.values ∧ v.bytes = b := by
  obtain ⟨v, hv, hb⟩ := Option.map_eq_some_iff.1 h
  obtain ⟨hfind, -⟩ := Option.filter_eq_some_iff.1 hv
  exact ⟨v, Keyed.mem_of_find? hfind, hb⟩

theorem holds_live? {m : Memory} {now : Clock} {key : String} {b : Bytes} (hm : m.Holds P)
    (h : m.live? now key = some b) : P key b := by
  obtain ⟨v, hv, rfl⟩ := mem_of_live? h
  exact hm _ hv

theorem get_fst (m : Memory) (now : Clock) (key : String) :
    (m.get now key).1 = m.live? now key := by
  rw [get]
  split
  next h => exact h.symm
  next h => exact h.symm

theorem holds_get {m : Memory} (now : Clock) (key : String) (hm : m.Holds P) :
    (m.get now key).2.Holds P := by
  rw [get]
  split
  next => exact hm
  next => exact fun v hv => hm v (Keyed.mem_of_mem_erase hv)

theorem holds_set {m : Memory} (now : Clock) {key : String} {b : Bytes} (ttl : Span)
    (hm : m.Holds P) (hb : P key b) : (m.set now key b ttl).Holds P := by
  intro v hv
  rcases Keyed.mem_insert_fst hv with rfl | hv
  · exact hb
  · exact hm v hv

theorem holds_delete {m : Memory} (key : String) (hm : m.Holds P) :
    (m.delete key).2.Holds P :=
  fun v hv => hm v (Keyed.mem_of_mem_erase hv)

end Memory

/-! ### Mapped stores -/

/-- All kept values have a property, once the deadline in front of them is taken away. -/
def Mapped.Holds (P : String → Bytes → Prop) (m : Mapped) : Prop :=
  ∀ v ∈ m.values, ∃ d b, splitDeadline? v.2 = some (d, b) ∧ P v.1 b

namespace Mapped

theorem holds_delete {m : Mapped} (key : String) (hm : m.Holds P) :
    (m.delete key).2.Holds P := by
  rw [delete]
  split
  next => exact hm
  next =>
    split
    next => exact fun v hv => hm v (Keyed.mem_of_mem_erase hv)
    next => exact hm

theorem holds_get {m : Mapped} (now : Clock) (key : String) (hm : m.Holds P) :
    (m.get now key).2.Holds P := by
  rw [get]
  split
  next => exact hm
  next =>
    split
    next => exact hm
    next =>
      split
      next => exact holds_delete key hm
      next => exact hm

theorem holds_of_get {m : Mapped} {now : Clock} {key : String} {b : Bytes} (hm : m.Holds P)
    (h : (m.get now key).1 = .ok (some b)) : P key b := by
  rw [get] at h
  split at h
  next => cases h
  next stored hfind =>
    obtain ⟨d, b', hsplit, hb'⟩ := hm _ (Keyed.mem_of_find? hfind)
    rw [hsplit] at h
    simp only at h
    split at h
    next => cases h
    next =>
      cases h
      exact hb'

theorem exists_splitDeadline? (d : Int) (b : Bytes) :
    ∃ d', splitDeadline? (withDeadline d b) = some (d', b) :=
  ⟨_, splitDeadline?_append (leastBytes_length _ _) rfl b⟩

theorem holds_set {m : Mapped} (now : Clock) {key : String} {b : Bytes} (ttl : Span)
    (hm : m.Holds P) (hb : P key b) : (m.set now key b ttl).2.Holds P := by
  simp only [set]
  split
  next =>
    intro v hv
    rcases Keyed.mem_insert_fst hv with rfl | hv
    · obtain ⟨d, hd⟩ := exists_splitDeadline? (deadlineAfter now ttl) b
      exact ⟨d, b, hd, hb⟩
    · exact hm v hv
  next => exact hm

end Mapped

/-! ### Stores -/

namespace Store

def Holds (P : String → Bytes → Prop) : Store → Prop
  | .memory m => m.Holds P
  | .mapped m => m.Holds P
  | .unreachable _ => True
  | .refusing _ m => m.Holds P

def IsEmpty : Store → Prop
  | .memory m => m.values = []
  | .mapped m => m.values = []
  | .unreachable _ => True
  | .refusing _ m => m.values = []

theorem holds_of_isEmpty {s : Store} (h : s.IsEmpty) : s.Holds P := by
  have nothing : ∀ {β : Type} {Q : β → Prop} {l : List β}, l = [] → ∀ v ∈ l, Q v := by
    intro β Q l hl v hv
    rw [hl] at hv
    cases hv
  cases s with
  | memory m => exact nothing h
  | mapped m => exact nothing h
  | unreachable n => trivial
  | refusing r m => exact nothing h

theorem holds_get {s : Store} (now : Clock) (key : String) (hs : s.Holds P) :
    (s.get now key).2.Holds P := by
  cases s with
  | memory m => exact Memory.holds_get now key hs
  | mapped m => exact Mapped.holds_get now key hs
  | unreachable n => trivial
  | refusing r m =>
    rw [get]
    split
    next => exact hs
    next => exact Memory.holds_get now key hs

theorem holds_of_get {s : Store} {now : Clock} {key : String} {b : Bytes} (hs : s.Holds P)
    (h : (s.get now key).1 = .ok (some b)) : P key b := by
  cases s with
  | memory m => exact Memory.holds_live? hs ((m.get_fst now key).symm.trans (Except.ok.inj h))
  | mapped m => exact Mapped.holds_of_get hs h
  | unreachable n => cases h
  | refusing r m =>
    rw [get] at h
    split at h
    next => cases h
    next => exact Memory.holds_live? hs ((m.get_fst now key).symm.trans (Except.ok.inj h))

theorem holds_set {s : Store} (now : Clock) {key : String} {b : Bytes} (ttl : Span)
    (hs : s.Holds P) (hb : P key b) : (s.set now key b ttl).2.Holds P := by
  cases s with
  | memory m => exact Memory.holds_set now ttl hs hb
  | mapped m => exact Mapped.holds_set now ttl hs hb
  | unreachable n => trivial
  | refusing r m =>
    rw [set]
    split
    next => exact hs
    next => exact Memory.holds_set now ttl hs hb

theorem holds_delete {s : Store} (key : String) (hs : s.Holds P) : (s.delete key).2.Holds P := by
  cases s with
  | memory m => exact Memory.holds_delete key hs
  | mapped m => exact Mapped.holds_delete key hs
  | unreachable n => trivial
  | refusing r m =>
    rw [delete]
    split
    next => exact hs
    next => exact Memory.holds_delete key hs

theorem holds_setRefused {s : Store} (refused : List Call) (hs : s.Holds P) :
    (s.setRefused refused).Holds P := by
  cases s with
  | memory m => exact hs
  | mapped m => exact hs
  | unreachable n => trivial
  | refusing r m => exact hs

end Store
end Casebook.Cache
