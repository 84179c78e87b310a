import Casebook.Proofs.Feed.Format
import Casebook.Proofs.Json.Compact

/-!
# What becomes of payloads

A payload loses its nulls and nothing else. Every other member of the object keeps its name, and of
several members with one name the last counts. A text stays as it is; any other value without doubles is
written as a compact document that reads back as that value, whatever is nested in it.
-/

namespace Casebook.Feed

/-- A payload holds the members of an object as texts. -/
structure Holds (ms : List (String × Json)) (p : Payload) : Prop where
  names : ∀ name, name ∈ p.entries.map (·.1) ↔
    ∃ v, (Json.object ms).last? name = some v ∧ v ≠ .null
  texts : ∀ name s, (Json.object ms).last? name = some (.string s) → p.get? name = some s
  /-- A value is what is left of it in canonical form, where no name stands twice. -/
  documents : ∀ name v, (Json.object ms).last? name = some v → v ≠ .null → (∀ s, v ≠ .string s) →
    Json.IsWhole v.canonical →
    ∃ t, p.get? name = some t ∧ Json.IsCompact t ∧ Json.read (Bytes.ofText t) = .ok v.canonical

theorem exists_get?_iff (p : Payload) (name : String) :
    name ∈ p.entries.map (·.1) ↔ ∃ s, p.get? name = some s := by
  have entry : ∀ s, p.get? name = some s ↔ (name, s) ∈ p.entries := fun _ =>
    Keyed.find?_eq_some_iff (Keyed.nodup_of_sorted p.isSorted)
  simp only [entry, List.mem_map]
  constructor
  · rintro ⟨⟨_, s⟩, member, rfl⟩
    exact ⟨s, member⟩
  · rintro ⟨s, member⟩
    exact ⟨(name, s), member, rfl⟩

theorem payloadText?_canonical {v : Json} (null : v ≠ .null) (text : ∀ s, v ≠ .string s) :
    payloadText? v.canonical = some v.canonical.text := by
  cases v with
  | null => exact absurd rfl null
  | string s => exact absurd rfl (text s)
  | _ => rfl

theorem exists_payloadText?_iff (v : Json) : (∃ s, payloadText? v.canonical = some s) ↔ v ≠ .null := by
  constructor
  · rintro ⟨s, given⟩ rfl
    cases given
  · intro null
    by_cases text : ∃ s, v = .string s
    · obtain ⟨s, rfl⟩ := text
      exact ⟨s, rfl⟩
    · exact ⟨_, payloadText?_canonical null fun s h => text ⟨s, h⟩⟩

theorem holds_of_gives {source : Source} {r : Json} {e : Event} {ms : List (String × Json)}
    (legible : Json.Legible Json.maxDepth r) (gives : Gives source r e)
    (payload : r.last? "payload" = some (.object ms)) : Holds ms e.payload := by
  have get : ∀ name, e.payload.get? name =
      ((Json.object ms).last? name).bind fun v => payloadText? v.canonical := by
    intro name
    rw [gives.payload, coerced?, payload]
    rfl
  refine ⟨fun name => ?_, fun name s given => ?_, fun name v given null text whole => ?_⟩
  · rw [exists_get?_iff, get]
    cases (Json.object ms).last? name with
    | none => simp only [Option.bind_none, reduceCtorEq, exists_false, false_and]
    | some v => simp only [Option.bind_some, exists_payloadText?_iff, Option.some.injEq, exists_eq_left']
  · rw [get, given]
    rfl
  · refine ⟨v.canonical.text, ?_, Json.isCompact_text whole, ?_⟩
    · rw [get, given]
      exact payloadText?_canonical null text
    · exact ((legible.of_last? payload).of_last? given).read_text whole

theorem legible_of_carries {v : Json} {records : List Json} (carries : Carries v records) {room : Nat}
    (legible : Json.Legible room v) : ∀ r ∈ records, Json.Legible room r := by
  cases carries with
  | list => exact fun r hr => legible.of_mem hr
  | envelope items => exact fun r hr => (legible.of_last? items).of_mem hr

/-- Each event of a decoded body holds the payload of its record. -/
theorem decode_keeps_payloads (source : Source) (body : Bytes) {es : List Event}
    (decoded : decode source body = .ok es) :
    ∃ doc records, Json.read body = .ok doc ∧ Carries doc records ∧
      List.Forall₂ (fun r e => ∀ ms, r.last? "payload" = some (.object ms) → Holds ms e.payload)
        records es := by
  obtain ⟨doc, records, read, carries, gives⟩ := ((decides_decode source body).ok es).1 decoded
  have legible := legible_of_carries carries (Json.legible_of_read read)
  refine ⟨doc, records, read, carries, ?_⟩
  have both := (List.forall₂_and_left records es).2 ⟨legible, gives⟩
  exact both.imp fun _ _ ⟨legible, gives⟩ _ payload => holds_of_gives legible gives payload

end Casebook.Feed
