import Casebook.Proofs.Json.RoundTrip
import Casebook.Proofs.Text.Keyed
import Casebook.Proofs.Time.RoundTrip
import Casebook.Record.Case

/-!
# Kept records read back

Every record of a case is read back from its document form, and its document form is exact; so the
bytes of an entry give back the entry, whatever its timeline holds.
-/

namespace Casebook

open Json (isExact isExactItems isExactMembers)

/-! ### The parts of an event -/

theorem mapM_map_of_forall {α β : Type} {f : α → β} {g : β → Option α} (as : List α)
    (h : ∀ a, g (f a) = some a) : (as.map f).mapM g = some as := by
  induction as with
  | nil => rfl
  | cons a as ih =>
    rw [List.map_cons, List.mapM_cons, h a]
    simp [ih]

theorem isExactItems_map {α : Type} {f : α → Json} (as : List α) (h : ∀ a, isExact (f a) = true) :
    isExactItems (as.map f) = true := by
  induction as with
  | nil => rfl
  | cons a as ih => rw [List.map_cons, isExactItems, h a, ih, Bool.and_self]

theorem CaseId.ofJson?_toJson (c : CaseId) : CaseId.ofJson? c.toJson = some c := by
  rw [CaseId.toJson, CaseId.ofJson?, Json.asString?, Option.bind_some, CaseId.parse_text]
  rfl

theorem Source.ofJson?_toJson (s : Source) : Source.ofJson? s.toJson = some s := by
  cases s <;> decide

theorem Instant.ofJson?_toJson (t : Instant) : Instant.ofJson? t.toJson = some t := by
  rw [Instant.toJson, Instant.ofJson?, Json.asString?, Option.bind_some, Instant.text,
    String.toList_ofList]
  exact Instant.relaxed?_chars t

theorem Payload.ofList_entries (p : Payload) : Payload.ofList p.entries = p := by
  obtain ⟨entries, sorted⟩ := p
  have same := Keyed.ofList_of_sorted sorted
  simp only [Payload.ofList, same]

theorem Payload.ofJson?_toJson (p : Payload) : Payload.ofJson? p.toJson = some p := by
  have members : (p.entries.map fun e => (e.1, Json.string e.2)).mapM Json.textMember? =
      some p.entries :=
    mapM_map_of_forall p.entries fun e => rfl
  rw [Payload.toJson, Payload.ofJson?, members, Option.map_some, Payload.ofList_entries]

theorem Event.ofJson?_toJson (e : Event) : Event.ofJson? e.toJson = some e := by
  have record : Json.Record.ofJson? ["source", "occurredAt", "kind", "payload"] e.toJson =
      some ⟨[some e.source.toJson, some e.occurredAt.toJson, some (.string e.kind),
        some e.payload.toJson], false⟩ := by
    simp +decide [Json.Record.ofJson?, Event.toJson, Json.Record.only?]
  rw [Event.ofJson?, record]
  simp [Json.Record.required?, Json.Record.orElse, Json.asString?, Source.ofJson?_toJson,
    Instant.ofJson?_toJson, Payload.ofJson?_toJson]

/-! ### Timelines and entries -/

theorem SourceSet.ofList_members (s : SourceSet) : SourceSet.ofList s.members = s := by
  obtain ⟨members, ordered⟩ := s
  simp only [SourceSet.ofList, ordered]

theorem Timeline.ofJson?_toJson (t : Timeline) : Timeline.ofJson? t.toJson = some t := by
  have record : Json.Record.ofJson? ["events", "degraded", "missingSources"] t.toJson =
      some ⟨[some (Event.listToJson t.events), some (.bool t.degraded),
        some (.array (t.missing.members.map Source.toJson))], false⟩ := by
    simp +decide [Json.Record.ofJson?, Timeline.toJson, Json.Record.only?]
  have events := mapM_map_of_forall t.events Event.ofJson?_toJson
  have missing := mapM_map_of_forall t.missing.members Source.ofJson?_toJson
  rw [Timeline.ofJson?, record]
  simp [Json.Record.required?, Event.listToJson, Json.asArray?, Json.asBool?, events, missing,
    SourceSet.ofList_members]

theorem Entry.ofJson?_toJson (e : Entry) : Entry.ofJson? e.toJson = some e := by
  have record : Json.Record.ofJson? ["caseId", "timeline", "storedAt", "ttlSeconds"] e.toJson =
      some ⟨[some e.caseId.toJson, some e.timeline.toJson, some e.storedAt.toJson,
        some (.int e.ttlSeconds)], false⟩ := by
    simp +decide [Json.Record.ofJson?, Entry.toJson, Json.Record.only?]
  have whole : Json.asNat? (.int e.ttlSeconds) = some e.ttlSeconds := by
    simp [Json.asNat?]
  rw [Entry.ofJson?, record]
  simp [Json.Record.required?, CaseId.ofJson?_toJson, Timeline.ofJson?_toJson,
    Instant.ofJson?_toJson, whole, e.ttl_le]

theorem CaseView.ofJson?_toJson (v : CaseView) : CaseView.ofJson? v.toJson = some v := by
  obtain ⟨caseId, timeline⟩ := v
  cases timeline with
  | none =>
    have record : Json.Record.ofJson? ["caseId", "timeline"] (CaseView.toJson ⟨caseId, none⟩) =
        some ⟨[some caseId.toJson, none], false⟩ := by
      simp +decide [Json.Record.ofJson?, CaseView.toJson, Json.Record.only?]
    rw [CaseView.ofJson?, record]
    simp [Json.Record.required?, Json.Record.optional?, CaseId.ofJson?_toJson]
  | some t =>
    have record : Json.Record.ofJson? ["caseId", "timeline"] (CaseView.toJson ⟨caseId, some t⟩) =
        some ⟨[some caseId.toJson, some t.toJson], false⟩ := by
      simp +decide [Json.Record.ofJson?, CaseView.toJson, Json.Record.only?]
    have present : Json.Record.optional? ⟨[some caseId.toJson, some t.toJson], false⟩ 1 =
        some (some t.toJson) := rfl
    rw [CaseView.ofJson?, record]
    simp [Json.Record.required?, present, CaseId.ofJson?_toJson, Timeline.ofJson?_toJson]

/-! ### Bytes -/

theorem Payload.isExact_toJson (p : Payload) : isExact p.toJson = true := by
  have members : ∀ l : List (String × String),
      isExactMembers (l.map fun e => (e.1, Json.string e.2)) = true := by
    intro l
    induction l with
    | nil => rfl
    | cons e l ih =>
      rw [List.map_cons, isExactMembers, ih, Bool.and_true]
      rfl
  exact members p.entries

theorem Event.isExact_toJson (e : Event) : isExact e.toJson = true := by
  simp [Event.toJson, isExact, isExactMembers, Payload.isExact_toJson, Source.toJson,
    Instant.toJson]

theorem Timeline.isExact_toJson (t : Timeline) : isExact t.toJson = true := by
  have events := isExactItems_map t.events Event.isExact_toJson
  have missing := isExactItems_map t.missing.members fun s : Source => (rfl : isExact s.toJson = true)
  simp [Timeline.toJson, isExact, isExactMembers, Event.listToJson, events, missing]

theorem Entry.isExact_toJson (e : Entry) : isExact e.toJson = true := by
  have small : (e.ttlSeconds : Int) < 18446744073709551616 := by
    have := e.ttl_le
    have most : Decimal.max64 = 18446744073709551615 := rfl
    omega
  simp [Entry.toJson, isExact, isExactMembers, CaseId.toJson, Instant.toJson,
    Timeline.isExact_toJson, small]

theorem CaseView.isExact_toJson (v : CaseView) : isExact v.toJson = true := by
  obtain ⟨caseId, timeline⟩ := v
  cases timeline with
  | none => rfl
  | some t => simp [CaseView.toJson, isExact, isExactMembers, CaseId.toJson, t.isExact_toJson]

theorem CaseView.outline?_text (v : CaseView) :
    (Json.outline? (Bytes.ofText v.toJson.text)).bind CaseView.ofJson? = some v := by
  rw [Json.outline?_text v.isExact_toJson, Option.bind_some, CaseView.ofJson?_toJson]

theorem Entry.ofBytes?_toBytes (e : Entry) : Entry.ofBytes? e.toBytes = some e := by
  rw [Entry.ofBytes?, Entry.toBytes, Json.outline?_text e.isExact_toJson, Option.bind_some,
    Entry.ofJson?_toJson]

theorem Entry.toBytes_injective {a b : Entry} (h : a.toBytes = b.toBytes) : a = b := by
  have read := Entry.ofBytes?_toBytes a
  rw [h, Entry.ofBytes?_toBytes] at read
  exact (Option.some.inj read).symm

end Casebook
