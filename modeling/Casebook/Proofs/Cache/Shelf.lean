import Casebook.Cache.Shelf
import Casebook.Proofs.Cache.Store
import Casebook.Proofs.Record.RoundTrip

/-!
# What shelves hold

A store in which every value is the bytes of an entry under the key of its case: nothing in it is
damage, what is loaded is an entry of the case that was asked for, and keeping and dropping entries
leaves a store of this kind.
-/

namespace Casebook.Cache

theorem readEntry_toBytes (e : Entry) : readEntry e.caseId e.toBytes = .ok e := by
  rw [readEntry, Entry.ofBytes?_toBytes]
  exact if_pos rfl

namespace Store

/-- Every kept value is an entry under the key of its case, and the entry has a property. -/
def Shelves (Q : Entry → Prop) (s : Store) : Prop :=
  s.Holds fun key b => ∃ e, Q e ∧ key = keyOf e.caseId ∧ b = e.toBytes

variable {Q : Entry → Prop} {s : Store}

theorem shelves_of_isEmpty (h : s.IsEmpty) : s.Shelves Q := holds_of_isEmpty h

theorem entry_of_get (hs : s.Shelves Q) {now : Clock} {c : CaseId} {b : Bytes}
    (h : (s.get now (keyOf c)).1 = .ok (some b)) : ∃ e, Q e ∧ e.caseId = c ∧ b = e.toBytes := by
  obtain ⟨e, he, hkey, hb⟩ := holds_of_get hs h
  exact ⟨e, he, (keyOf_injective hkey).symm, hb⟩

/-- Loading from a store of entries is asking for the value and reading it: there is no damage to
throw away. -/
theorem load_cases (hs : s.Shelves Q) (now : Clock) (c : CaseId) :
    (s.load now c).2 = (s.get now (keyOf c)).2 ∧
      ((∃ f, (s.get now (keyOf c)).1 = .error f ∧ (s.load now c).1 = .error f) ∨
        ((s.get now (keyOf c)).1 = .ok none ∧ (s.load now c).1 = .ok none) ∨
        ∃ e, Q e ∧ e.caseId = c ∧ (s.get now (keyOf c)).1 = .ok (some e.toBytes) ∧
          (s.load now c).1 = .ok (some e)) := by
  rcases hg : s.get now (keyOf c) with ⟨found, t⟩
  rcases found with f | _ | b
  · have hl : s.load now c = (.error f, t) := by simp only [load, hg]
    rw [hl]
    exact ⟨rfl, .inl ⟨f, rfl, rfl⟩⟩
  · have hl : s.load now c = (.ok none, t) := by simp only [load, hg]
    rw [hl]
    exact ⟨rfl, .inr (.inl ⟨rfl, rfl⟩)⟩
  · obtain ⟨e, he, rfl, rfl⟩ := entry_of_get hs (congrArg (·.1) hg)
    have hl : s.load now e.caseId = (.ok (some e), t) := by simp only [load, hg, readEntry_toBytes]
    rw [hl]
    exact ⟨rfl, .inr (.inr ⟨e, he, rfl, rfl, rfl⟩)⟩

theorem entry_of_load (hs : s.Shelves Q) {now : Clock} {c : CaseId} {e : Entry}
    (h : (s.load now c).1 = .ok (some e)) : Q e ∧ e.caseId = c := by
  rcases (load_cases hs now c).2 with ⟨f, -, hf⟩ | ⟨-, hn⟩ | ⟨e', he, hc, -, hl⟩
  · rw [hf] at h
    cases h
  · rw [hn] at h
    cases h
  · rw [hl] at h
    cases h
    exact ⟨he, hc⟩

theorem shelves_load (hs : s.Shelves Q) (now : Clock) (c : CaseId) :
    (s.load now c).2.Shelves Q := by
  rw [(load_cases hs now c).1]
  exact holds_get now (keyOf c) hs

theorem shelves_keep (hs : s.Shelves Q) (now : Clock) {e : Entry} (he : Q e) :
    (s.keep now e).2.Shelves Q :=
  holds_set now e.ttl hs ⟨e, he, rfl, rfl⟩

theorem shelves_drop (hs : s.Shelves Q) (c : CaseId) : (s.drop c).2.Shelves Q :=
  holds_delete (keyOf c) hs

theorem shelves_setRefused (hs : s.Shelves Q) (refused : List Call) :
    (s.setRefused refused).Shelves Q :=
  holds_setRefused refused hs

end Store
end Casebook.Cache
