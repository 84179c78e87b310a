import Casebook.Json.Basic
import Casebook.Proofs.Text.Keyed

/-!
# Members of documents

What the canonical form of a document holds: its items one by one, and under each name the value of the
last member with that name.
-/

namespace Casebook.Json

/-- The value of the last member with a name. -/
def last? (name : String) : Json → Option Json
  | .object ms => ms.reverse.lookup name
  | _ => none

theorem canonicalItems_eq (items : List Json) : canonicalItems items = items.map canonical := by
  induction items with
  | nil => rfl
  | cons v r ih => rw [canonicalItems, ih, List.map_cons]

theorem canonicalMembers_eq (ms : List (String × Json)) :
    canonicalMembers ms = ms.map fun m => (m.1, m.2.canonical) := by
  induction ms with
  | nil => rfl
  | cons m r ih => rw [canonicalMembers, ih, List.map_cons]

theorem lookup_map_snd {α β : Type} (f : α → β) (name : String) (l : List (String × α)) :
    (l.map fun m => (m.1, f m.2)).lookup name = (l.lookup name).map f := by
  induction l with
  | nil => rfl
  | cons m r ih =>
    rw [List.map_cons, List.lookup_cons, List.lookup_cons]
    cases name == m.1 with
    | true => rfl
    | false => exact ih

theorem member?_canonical (name : String) (v : Json) :
    v.canonical.member? name = (v.last? name).map canonical := by
  cases v with
  | object ms =>
    rw [canonical, member?, Keyed.find?_ofList, canonicalMembers_eq, ← List.map_reverse,
      lookup_map_snd, last?]
  | _ => rfl

theorem shape_canonical (v : Json) : v.canonical.shape = v.shape := by
  cases v <;> rfl

theorem isObject_of_last? {name : String} {v w : Json} (h : v.last? name = some w) :
    ∃ ms, v = .object ms := by
  cases v with
  | object ms => exact ⟨ms, rfl⟩
  | _ => cases h

theorem mem_of_last? {name : String} {ms : List (String × Json)} {v : Json}
    (h : (Json.object ms).last? name = some v) : (name, v) ∈ ms := by
  obtain ⟨before, after, split, -⟩ := List.lookup_eq_some_iff.1 h
  rw [← List.mem_reverse, split]
  exact List.mem_append_right _ List.mem_cons_self

theorem exists_of_mem_canonical {ms : List (String × Json)} {m : String × Json}
    (h : m ∈ Keyed.ofList (canonicalMembers ms)) : ∃ v, (m.1, v) ∈ ms ∧ m.2 = v.canonical := by
  have member := Keyed.mem_of_mem_ofList h
  rw [canonicalMembers_eq] at member
  obtain ⟨⟨k, v⟩, hv, rfl⟩ := List.mem_map.1 member
  exact ⟨v, hv, rfl⟩

end Casebook.Json
