import Casebook.Proofs.Cache.Loading

/-!
# What calls leave alone

A call changes at most the slot of its own key: asking and deleting can only empty it, and a value that
is accepted fills it. A call that fails changes no slot at all.
-/

namespace Casebook.Cache

/-! ### Each kind of store -/

theorem Memory.values_get (m : Memory) (now : Clock) (key : String) :
    (m.get now key).2.values = m.values ∨ (m.get now key).2.values = Keyed.erase key m.values := by
  rw [Memory.get]
  split
  next => exact .inl rfl
  next => exact .inr rfl

theorem Mapped.values_delete (m : Mapped) (key : String) :
    (m.delete key).2.values = m.values ∨ (m.delete key).2.values = Keyed.erase key m.values := by
  rw [Mapped.delete]
  split
  next => exact .inl rfl
  next =>
    split
    next => exact .inr rfl
    next => exact .inl rfl

theorem Mapped.delete_of_error {m : Mapped} {key : String} {f : CacheFault}
    (h : (m.delete key).1 = .error f) : (m.delete key).2 = m := by
  rw [Mapped.delete] at h ⊢
  split at h
  next => cases h
  next =>
    split at h
    next => cases h
    next => rfl

theorem Mapped.values_get (m : Mapped) (now : Clock) (key : String) :
    (m.get now key).2.values = m.values ∨ (m.get now key).2.values = Keyed.erase key m.values := by
  rw [Mapped.get]
  split
  next => exact .inl rfl
  next =>
    split
    next => exact .inl rfl
    next =>
      split
      next => exact m.values_delete key
      next => exact .inl rfl

theorem Mapped.set_of_error {m : Mapped} {now : Clock} {key : String} {b : Bytes} {ttl : Span}
    {f : CacheFault} (h : (m.set now key b ttl).1 = .error f) : (m.set now key b ttl).2 = m := by
  simp only [Mapped.set] at h ⊢
  split at h
  next => cases h
  next => rfl

theorem Mapped.values_set (m : Mapped) (now : Clock) (key : String) (b : Bytes) (ttl : Span) :
    (m.set now key b ttl).2.values = m.values ∨ (m.set now key b ttl).2.values =
      Keyed.insert key (withDeadline (deadlineAfter now ttl) b) m.values := by
  simp only [Mapped.set]
  split
  next => exact .inr rfl
  next => exact .inl rfl

/-- A slot that is as it was, or was emptied if it is the one of a key. -/
def Slot.Emptied (key other : String) (before after : Option Slot) : Prop :=
  after = before ∨ other = key ∧ after = none

section
variable {β : Type} {key other : String} {l l' : List (String × β)} {form : β → Slot}

theorem Slot.emptied_of_values (h : l' = l ∨ l' = Keyed.erase key l) :
    Slot.Emptied key other ((Keyed.find? other l).map form) ((Keyed.find? other l').map form) := by
  rcases h with rfl | rfl
  · exact .inl rfl
  · rw [Keyed.find?_erase]
    by_cases same : other = key
    · rw [if_pos same]
      exact .inr ⟨same, rfl⟩
    · rw [if_neg same]
      exact .inl rfl

theorem Slot.Emptied.of_ne {before after : Option Slot} (h : Slot.Emptied key other before after)
    (ne : other ≠ key) : after = before :=
  h.resolve_right fun emptied => ne emptied.1

end

namespace Store

variable (s : Store) (now : Clock) (key other : String)

/-! ### Every store -/

theorem emptied_get : Slot.Emptied key other (s.slot? other) ((s.get now key).2.slot? other) := by
  cases s with
  | memory m => exact Slot.emptied_of_values (m.values_get now key)
  | mapped m => exact Slot.emptied_of_values (m.values_get now key)
  | unreachable n => exact .inl rfl
  | refusing r m =>
    rw [get]
    split
    next => exact .inl rfl
    next => exact Slot.emptied_of_values (m.values_get now key)

theorem emptied_delete :
    Slot.Emptied key other (s.slot? other) ((s.delete key).2.slot? other) := by
  cases s with
  | memory m => exact Slot.emptied_of_values (.inr rfl)
  | mapped m => exact Slot.emptied_of_values (m.values_delete key)
  | unreachable n => exact .inl rfl
  | refusing r m =>
    rw [delete]
    split
    next => exact .inl rfl
    next => exact Slot.emptied_of_values (.inr rfl)

theorem emptied_load (c : CaseId) :
    Slot.Emptied (keyOf c) other (s.slot? other) ((s.load now c).2.slot? other) := by
  rcases hg : (s.get now (keyOf c)).1 with f | _ | b
  · rw [load_of_error hg]
    exact s.emptied_get now (keyOf c) other
  · rw [load_of_none hg]
    exact s.emptied_get now (keyOf c) other
  · rw [load_of_some hg]
    split
    next => exact .inl (slot?_hit s other)
    next =>
      have deleted := s.hit.emptied_delete (keyOf c) other
      rw [slot?_hit] at deleted
      exact deleted

@[simp] theorem slot?_setRefused (refused : List Call) (key : String) :
    (s.setRefused refused).slot? key = s.slot? key := by
  cases s <;> rfl

variable {s now key}

theorem slot?_delete_of_error {f : CacheFault} (h : (s.delete key).1 = .error f) (other : String) :
    (s.delete key).2.slot? other = s.slot? other := by
  cases s with
  | memory m => cases h
  | mapped m => exact congrArg (fun m => slot? (.mapped m) other) (Mapped.delete_of_error h)
  | unreachable n => rfl
  | refusing r m =>
    rw [delete] at h ⊢
    split at h
    next refused => rw [if_pos refused]
    next => cases h

variable {b : Bytes} {ttl : Span}

theorem slot?_set_of_error {f : CacheFault} (h : (s.set now key b ttl).1 = .error f)
    (other : String) : (s.set now key b ttl).2.slot? other = s.slot? other := by
  cases s with
  | memory m => cases h
  | mapped m => exact congrArg (fun m => slot? (.mapped m) other) (Mapped.set_of_error h)
  | unreachable n => rfl
  | refusing r m =>
    rw [set] at h ⊢
    split at h
    next refused => rw [if_pos refused]
    next => cases h

theorem slot?_set_of_ne (ne : other ≠ key) :
    (s.set now key b ttl).2.slot? other = s.slot? other := by
  have inMemory : ∀ m : Memory, (Keyed.find? other (m.set now key b ttl).values).map Slot.held =
      (Keyed.find? other m.values).map .held := by
    intro m
    rw [Memory.find?_set, if_neg ne]
  cases s with
  | memory m => exact inMemory m
  | mapped m =>
    show (Keyed.find? other (m.set now key b ttl).2.values).map Slot.written = _
    rcases m.values_set now key b ttl with same | inserted
    · rw [same]
      rfl
    · rw [inserted, Keyed.find?_insert_of_ne _ _ ne]
      rfl
  | unreachable n => rfl
  | refusing r m =>
    rw [set]
    split
    next => rfl
    next => exact inMemory m

end Store
end Casebook.Cache
