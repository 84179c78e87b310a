import Casebook.Feed.Decode
import Casebook.Proofs.Json.Members
import Casebook.Proofs.Json.RoundTrip
import Casebook.Proofs.Text.Trimming
import Mathlib.Data.List.Forall2
import Mathlib.Data.List.TakeWhile

/-!
# The format of bodies

Which bodies are decoded, and into what: documents that carry a list of records, bare or as the items of
an object, each record with a kind and a time. Any other body is refused as a whole, for the first thing
that is wrong with it. What counts under a name is the last member of that name.
-/

namespace Casebook

namespace Feed

/-- What a computation comes to: `P` tells its results and `Q` its faults. -/
structure Decides {ε α : Type} (x : Except ε α) (P : α → Prop) (Q : ε → Prop) : Prop where
  ok : ∀ a, x = .ok a ↔ P a
  error : ∀ e, x = .error e ↔ Q e

theorem decides_of_total {ε α : Type} {x : Except ε α} {P : α → Prop} {Q : ε → Prop}
    (ok : ∀ a, P a → x = .ok a) (error : ∀ e, Q e → x = .error e)
    (total : (∃ a, P a) ∨ ∃ e, Q e) : Decides x P Q := by
  -- A computation has one outcome, so a result or fault that is known rules out every other.
  rcases total with ⟨a, ha⟩ | ⟨e, he⟩
  · refine ⟨fun b => ⟨fun h => ?_, ok b⟩, fun d => ⟨fun h => ?_, error d⟩⟩
    · cases (ok a ha).symm.trans h
      exact ha
    · cases (ok a ha).symm.trans h
  · refine ⟨fun b => ⟨fun h => ?_, ok b⟩, fun d => ⟨fun h => ?_, error d⟩⟩
    · cases (error e he).symm.trans h
    · cases (error e he).symm.trans h
      exact he

/-! ### Records -/

/-- Where a document keeps its records. -/
inductive Carries : Json → List Json → Prop where
  | list (records : List Json) : Carries (.array records) records
  | envelope {ms : List (String × Json)} {records : List Json}
      (items : (Json.object ms).last? "items" = some (.array records)) : Carries (.object ms) records

def HasKind (r : Json) (kind : String) : Prop :=
  r.last? "kind" = some (.string kind) ∧ ∃ c ∈ kind.toList, Text.isBlank c = false

def HappenedAt (r : Json) (t : Instant) : Prop :=
  ∃ raw, r.last? "occurredAt" = some (.string raw) ∧ Instant.read? raw.toList = some t

structure IsRecord (r : Json) : Prop where
  isObject : ∃ ms, r = .object ms
  kind : ∃ kind, HasKind r kind
  time : ∃ t, HappenedAt r t

/-- The text under a name in the payload of a record; only an object has any. -/
def coerced? (r : Json) (name : String) : Option String :=
  (r.last? "payload").bind fun p => (p.last? name).bind fun v => payloadText? v.canonical

/-- The event that a record gives. -/
structure Gives (source : Source) (r : Json) (e : Event) : Prop where
  source : e.source = source
  kind : HasKind r e.kind
  time : HappenedAt r e.occurredAt
  payload : ∀ name, e.payload.get? name = coerced? r name
  noPayload : (∀ ms, r.last? "payload" ≠ some (.object ms)) → e.payload = Payload.empty

/-- What is wrong with a record. Its time only matters once it has a kind. -/
inductive Fails (r : Json) : RecordFault → Prop where
  | notObject (other : ∀ ms, r ≠ .object ms) : Fails r (.notObject r.shape)
  | missingKind (isObject : ∃ ms, r = .object ms) (absent : r.last? "kind" = none) :
      Fails r .missingKind
  | badKind {v : Json} (given : r.last? "kind" = some v) (bad : ∀ kind, ¬HasKind r kind) :
      Fails r .badKind
  | missingTime {kind : String} (hasKind : HasKind r kind) (absent : r.last? "occurredAt" = none) :
      Fails r .missingTime
  | timeNotText {kind : String} {v : Json} (hasKind : HasKind r kind)
      (given : r.last? "occurredAt" = some v) (other : ∀ raw, v ≠ .string raw) : Fails r .timeNotText
  | badTime {kind raw : String} (hasKind : HasKind r kind)
      (given : r.last? "occurredAt" = some (.string raw))
      (unreadable : Instant.read? raw.toList = none) : Fails r .badTime

/-! ### One record -/

theorem kindOf_canonical (v : Option Json) : kindOf (v.map Json.canonical) = kindOf v := by
  rcases v with _ | v
  · rfl
  · cases v <;> rfl

theorem timeOf_canonical (v : Option Json) : timeOf (v.map Json.canonical) = timeOf v := by
  rcases v with _ | v
  · rfl
  · cases v <;> rfl

theorem exists_visible {s : String} (h : Text.trim s.toList ≠ []) :
    ∃ c ∈ s.toList, Text.isBlank c = false := by
  rw [ne_eq, Text.trim_eq_nil_iff, not_forall] at h
  obtain ⟨c, hc⟩ := h
  rw [Classical.not_imp, Bool.not_eq_true] at hc
  exact ⟨c, hc⟩

theorem kindOf_eq_ok_iff {r : Json} {kind : String} :
    kindOf (r.last? "kind") = .ok kind ↔ HasKind r kind := by
  rw [HasKind]
  rcases r.last? "kind" with _ | v
  · exact ⟨fun h => (nomatch h), fun h => (nomatch h.1)⟩
  cases v with
  | string s =>
    rw [kindOf]
    split
    next blank =>
      refine ⟨fun h => (nomatch h), ?_⟩
      rintro ⟨same, c, hc, visible⟩
      cases same
      rw [Text.trim_eq_nil_iff.1 blank c hc] at visible
      cases visible
    next visible =>
      constructor
      · rintro ⟨⟩
        exact ⟨rfl, exists_visible visible⟩
      · rintro ⟨same, -⟩
        cases same
        rfl
  | _ => exact ⟨fun h => (nomatch h), fun h => (nomatch h.1)⟩

theorem timeOf_eq_ok_iff {r : Json} {t : Instant} :
    timeOf (r.last? "occurredAt") = .ok t ↔ HappenedAt r t := by
  rw [HappenedAt]
  rcases r.last? "occurredAt" with _ | v
  · exact ⟨fun h => (nomatch h), fun ⟨_, h, _⟩ => (nomatch h)⟩
  cases v with
  | string raw =>
    rw [timeOf]
    constructor
    · intro h
      split at h
      next t' read =>
        cases h
        exact ⟨raw, rfl, read⟩
      next => cases h
    · rintro ⟨_, same, read⟩
      cases same
      rw [read]
  | _ => exact ⟨fun h => (nomatch h), fun ⟨_, h, _⟩ => (nomatch h)⟩

theorem kindOf_of_bad {r v : Json} (given : r.last? "kind" = some v) (bad : ∀ kind, ¬HasKind r kind) :
    kindOf (some v) = .error .badKind := by
  cases v with
  | string s =>
    rw [kindOf]
    split
    next => rfl
    next visible => exact absurd ⟨given, exists_visible visible⟩ (bad s)
  | _ => rfl

theorem timeOf_of_not_text {v : Json} (other : ∀ raw, v ≠ .string raw) :
    timeOf (some v) = .error .timeNotText := by
  cases v with
  | string raw => exact absurd rfl (other raw)
  | _ => rfl

theorem fails_of_kindOf {r : Json} {fault : RecordFault} (isObject : ∃ ms, r = .object ms)
    (h : kindOf (r.last? "kind") = .error fault) : Fails r fault := by
  have bad : ∀ kind, ¬HasKind r kind := by
    intro kind hasKind
    rw [kindOf_eq_ok_iff.2 hasKind] at h
    cases h
  rcases given : r.last? "kind" with _ | v
  · rw [given] at h
    cases h
    exact .missingKind isObject given
  · rw [given, kindOf_of_bad given bad] at h
    cases h
    exact .badKind given bad

theorem fails_of_timeOf {r : Json} {fault : RecordFault} {kind : String} (hasKind : HasKind r kind)
    (h : timeOf (r.last? "occurredAt") = .error fault) : Fails r fault := by
  rcases given : r.last? "occurredAt" with _ | v
  · rw [given] at h
    cases h
    exact .missingTime hasKind given
  rw [given] at h
  by_cases text : ∃ raw, v = .string raw
  · obtain ⟨raw, rfl⟩ := text
    rw [timeOf] at h
    split at h
    next => cases h
    next unreadable =>
      cases h
      exact .badTime hasKind given unreadable
  · have other : ∀ raw, v ≠ .string raw := not_exists.1 text
    rw [timeOf_of_not_text other] at h
    cases h
    exact .timeNotText hasKind given other

theorem get?_ofList (l : List (String × String)) (name : String) :
    (Payload.ofList l).get? name = Keyed.find? name (Keyed.ofList l) := rfl

theorem payloadOf_get? (r : Json) (name : String) :
    (payloadOf ((r.last? "payload").map Json.canonical)).get? name = coerced? r name := by
  rw [coerced?]
  rcases r.last? "payload" with _ | v
  · rfl
  cases v with
  | object ms =>
    have sorted := Keyed.sorted_ofList (Json.canonicalMembers ms)
    have found := Json.member?_canonical name (.object ms)
    rw [Json.canonical, Json.member?] at found
    rw [Option.map_some, Json.canonical, payloadOf, get?_ofList,
      Keyed.ofList_of_sorted (Keyed.sorted_filterMap payloadText? sorted),
      Keyed.find?_filterMap payloadText? (Keyed.nodup_of_sorted sorted), found, Option.bind_map]
    rfl
  | _ => rfl

theorem payloadOf_of_not_object {v : Option Json} (h : ∀ ms, v ≠ some (.object ms)) :
    payloadOf (v.map Json.canonical) = Payload.empty := by
  rcases v with _ | v
  · rfl
  cases v with
  | object ms => exact absurd rfl (h ms)
  | _ => rfl

theorem eq_of_get? {p q : Payload} (h : ∀ name, p.get? name = q.get? name) : p = q := by
  -- The entries are sorted by name, so what they give under each name determines them.
  obtain ⟨l, sorted⟩ := p
  obtain ⟨l', sorted'⟩ := q
  have same : l = l' := Keyed.eq_of_find? sorted sorted' h
  subst same
  rfl

theorem decodeRecord_canonical (source : Source) (ms : List (String × Json)) :
    decodeRecord source (Json.object ms).canonical = (do
      let kind ← kindOf ((Json.object ms).last? "kind")
      let occurredAt ← timeOf ((Json.object ms).last? "occurredAt")
      .ok { source, occurredAt, kind,
            payload := payloadOf (((Json.object ms).last? "payload").map Json.canonical) }) := by
  rw [← kindOf_canonical, ← timeOf_canonical, ← Json.member?_canonical, ← Json.member?_canonical,
    ← Json.member?_canonical]
  rfl

theorem decodeRecord_of_not_object (source : Source) {r : Json} (h : ∀ ms, r ≠ .object ms) :
    decodeRecord source r.canonical = .error (.notObject r.shape) := by
  cases r with
  | object ms => exact absurd rfl (h ms)
  | _ => rfl

section
variable {source : Source} {r : Json}

theorem decodeRecord_of_gives {e : Event} (gives : Gives source r e) :
    decodeRecord source r.canonical = .ok e := by
  obtain ⟨ms, rfl⟩ := Json.isObject_of_last? gives.kind.1
  rw [decodeRecord_canonical, kindOf_eq_ok_iff.2 gives.kind, timeOf_eq_ok_iff.2 gives.time]
  have payload : payloadOf (((Json.object ms).last? "payload").map Json.canonical) = e.payload :=
    eq_of_get? fun name => (payloadOf_get? _ name).trans (gives.payload name).symm
  rw [payload, ← gives.source]
  rfl

theorem gives_of_fields {kind : String} {t : Instant} (hasKind : HasKind r kind)
    (time : HappenedAt r t) : Gives source r
      ⟨source, t, kind, payloadOf ((r.last? "payload").map Json.canonical)⟩ :=
  ⟨rfl, hasKind, time, payloadOf_get? r, payloadOf_of_not_object⟩

theorem gives_or_fails (source : Source) (r : Json) :
    (∃ e, Gives source r e) ∨ ∃ fault, Fails r fault := by
  by_cases isObject : ∃ ms, r = .object ms
  · rcases hk : kindOf (r.last? "kind") with fault | kind
    · exact .inr ⟨fault, fails_of_kindOf isObject hk⟩
    have hasKind := kindOf_eq_ok_iff.1 hk
    rcases ht : timeOf (r.last? "occurredAt") with fault | t
    · exact .inr ⟨fault, fails_of_timeOf hasKind ht⟩
    exact .inl ⟨_, gives_of_fields hasKind (timeOf_eq_ok_iff.1 ht)⟩
  · exact .inr ⟨_, .notObject fun ms same => isObject ⟨ms, same⟩⟩

theorem isRecord_iff (source : Source) : IsRecord r ↔ ∃ e, Gives source r e := by
  constructor
  · rintro ⟨-, ⟨kind, hasKind⟩, t, time⟩
    exact ⟨_, gives_of_fields hasKind time⟩
  · rintro ⟨e, gives⟩
    exact ⟨Json.isObject_of_last? gives.kind.1, ⟨e.kind, gives.kind⟩, e.occurredAt, gives.time⟩

theorem decodeRecord_of_fails {fault : RecordFault} (fails : Fails r fault) :
    decodeRecord source r.canonical = .error fault := by
  cases fails with
  | notObject other => exact decodeRecord_of_not_object source other
  | missingKind isObject absent =>
    obtain ⟨ms, rfl⟩ := isObject
    rw [decodeRecord_canonical, absent]
    rfl
  | badKind given bad =>
    obtain ⟨ms, rfl⟩ := Json.isObject_of_last? given
    rw [decodeRecord_canonical, given, kindOf_of_bad given bad]
    rfl
  | missingTime hasKind absent =>
    obtain ⟨ms, rfl⟩ := Json.isObject_of_last? hasKind.1
    rw [decodeRecord_canonical, kindOf_eq_ok_iff.2 hasKind, absent]
    rfl
  | timeNotText hasKind given other =>
    obtain ⟨ms, rfl⟩ := Json.isObject_of_last? hasKind.1
    rw [decodeRecord_canonical, kindOf_eq_ok_iff.2 hasKind, given, timeOf_of_not_text other]
    rfl
  | badTime hasKind given unreadable =>
    obtain ⟨ms, rfl⟩ := Json.isObject_of_last? hasKind.1
    rw [decodeRecord_canonical, kindOf_eq_ok_iff.2 hasKind, given, timeOf, unreadable]
    rfl

end

/-! ### Lists of records -/

/-- The first record with which something is wrong, by its place among the records. -/
inductive FirstBad : List Json → Nat → RecordFault → Prop where
  | here {r : Json} {rs : List Json} {fault : RecordFault} (fails : Fails r fault) :
      FirstBad (r :: rs) 0 fault
  | later {r : Json} {rs : List Json} {i : Nat} {fault : RecordFault} (sound : IsRecord r)
      (rest : FirstBad rs i fault) : FirstBad (r :: rs) (i + 1) fault

section
variable {source : Source} {records : List Json}

theorem decodeRecords_of_gives (index : Nat) {es : List Event}
    (gives : List.Forall₂ (Gives source) records es) :
    decodeRecords source index (records.map Json.canonical) = .ok es := by
  induction gives generalizing index with
  | nil => rfl
  | cons first _ ih =>
    rw [List.map_cons, decodeRecords, decodeRecord_of_gives first, ih]
    rfl

theorem decodeRecords_of_bad (index : Nat) {i : Nat} {fault : RecordFault}
    (bad : FirstBad records i fault) :
    decodeRecords source index (records.map Json.canonical) =
      .error (.badRecord (index + i) fault) := by
  -- The records before the first bad one give events, so the count reaches it.
  induction bad generalizing index with
  | here fails =>
    rw [List.map_cons, decodeRecords, decodeRecord_of_fails fails]
    rfl
  | @later r rs i fault sound _ ih =>
    obtain ⟨e, gives⟩ := (isRecord_iff source).1 sound
    rw [List.map_cons, decodeRecords, decodeRecord_of_gives gives, ih (index + 1), Nat.add_right_comm]
    rfl

theorem gives_or_bad (source : Source) (records : List Json) :
    (∃ es, List.Forall₂ (Gives source) records es) ∨ ∃ i fault, FirstBad records i fault := by
  induction records with
  | nil => exact .inl ⟨[], .nil⟩
  | cons r rs ih =>
    rcases gives_or_fails source r with ⟨e, gives⟩ | ⟨fault, fails⟩
    · rcases ih with ⟨es, all⟩ | ⟨i, fault, bad⟩
      · exact .inl ⟨e :: es, .cons gives all⟩
      · exact .inr ⟨i + 1, fault, .later ((isRecord_iff source).2 ⟨e, gives⟩) bad⟩
    · exact .inr ⟨0, fault, .here fails⟩

end

/-! ### Bodies -/

/-- A body that gives events: one for each record, in their order. -/
def Accepts (source : Source) (body : Bytes) (es : List Event) : Prop :=
  ∃ v records, Json.read body = .ok v ∧ Carries v records ∧ List.Forall₂ (Gives source) records es

inductive Rejects (body : Bytes) : Fault → Prop where
  | notJson {line : Nat} (unread : Json.read body = .error line) :
      Rejects body ⟨.notJson line, body.length, "invalid_json"⟩
  | noItems {ms : List (String × Json)} (read : Json.read body = .ok (.object ms))
      (noItems : ∀ records, (Json.object ms).last? "items" ≠ some (.array records)) :
      Rejects body ⟨.noItems, body.length, "object"⟩
  | notList {v : Json} (read : Json.read body = .ok v) (notArray : ∀ items, v ≠ .array items)
      (notObject : ∀ ms, v ≠ .object ms) : Rejects body ⟨.notList, body.length, v.shape⟩
  | badRecord {v : Json} {records : List Json} {i : Nat} {fault : RecordFault}
      (read : Json.read body = .ok v) (carries : Carries v records) (bad : FirstBad records i fault) :
      Rejects body ⟨.badRecord i fault, body.length, v.shape⟩

theorem Carries.eq {v : Json} {records records' : List Json} (h : Carries v records)
    (h' : Carries v records') : records = records' := by
  cases h with
  | list => cases h'; rfl
  | envelope items =>
    cases h' with
    | envelope items' =>
      cases items.symm.trans items'
      rfl

theorem recordsOf_of_carries {v : Json} {records : List Json} (h : Carries v records) :
    recordsOf v.canonical = .ok (records.map Json.canonical) := by
  cases h with
  | list => rw [Json.canonical, Json.canonicalItems_eq, recordsOf]
  | @envelope ms _ items =>
    have found := Json.member?_canonical "items" (.object ms)
    rw [items, Option.map_some, Json.canonical, Json.canonicalItems_eq] at found
    rw [Json.canonical, recordsOf, ← Json.canonical, found]

theorem recordsOf_of_noItems {ms : List (String × Json)}
    (h : ∀ records, (Json.object ms).last? "items" ≠ some (.array records)) :
    recordsOf (Json.object ms).canonical = .error .noItems := by
  have found := Json.member?_canonical "items" (.object ms)
  rw [Json.canonical] at found ⊢
  rw [recordsOf, found]
  rcases hv : (Json.object ms).last? "items" with _ | v
  · rfl
  cases v with
  | array items => exact absurd hv (h items)
  | _ => rfl

theorem recordsOf_of_notList {v : Json} (notArray : ∀ items, v ≠ .array items)
    (notObject : ∀ ms, v ≠ .object ms) : recordsOf v.canonical = .error .notList := by
  cases v with
  | array items => exact absurd rfl (notArray items)
  | object ms => exact absurd rfl (notObject ms)
  | _ => rfl

section
variable {source : Source} {body : Bytes}

theorem decode_of_accepts {es : List Event} (accepts : Accepts source body es) :
    decode source body = .ok es := by
  obtain ⟨v, records, read, carries, gives⟩ := accepts
  simp only [decode, read, recordsOf_of_carries carries, bind, Except.bind,
    decodeRecords_of_gives 0 gives]

theorem decode_of_rejects (source : Source) {fault : Fault} (rejects : Rejects body fault) :
    decode source body = .error fault := by
  cases rejects with
  | notJson unread => simp only [decode, unread]
  | noItems read noItems =>
    simp only [decode, read, recordsOf_of_noItems noItems, bind, Except.bind]
    rfl
  | notList read notArray notObject =>
    simp only [decode, read, recordsOf_of_notList notArray notObject, bind, Except.bind,
      Json.shape_canonical]
  | badRecord read carries bad =>
    simp only [decode, read, recordsOf_of_carries carries, bind, Except.bind,
      decodeRecords_of_bad 0 bad, Nat.zero_add, Json.shape_canonical]

theorem accepts_or_rejects (source : Source) (body : Bytes) :
    (∃ es, Accepts source body es) ∨ ∃ fault, Rejects body fault := by
  rcases read : Json.read body with line | v
  · exact .inr ⟨_, .notJson read⟩
  by_cases carried : ∃ records, Carries v records
  · obtain ⟨records, carries⟩ := carried
    rcases gives_or_bad source records with ⟨es, gives⟩ | ⟨i, fault, bad⟩
    · exact .inl ⟨es, v, records, read, carries, gives⟩
    · exact .inr ⟨_, .badRecord read carries bad⟩
  cases v with
  | array items => exact absurd ⟨items, .list items⟩ carried
  | object ms => exact .inr ⟨_, .noItems read fun records items => carried ⟨records, .envelope items⟩⟩
  | _ => exact .inr ⟨_, .notList read (fun _ h => (nomatch h)) (fun _ h => (nomatch h))⟩

theorem decides_decode (source : Source) (body : Bytes) :
    Decides (decode source body) (Accepts source body) (Rejects body) :=
  decides_of_total (fun _ => decode_of_accepts) (fun _ => decode_of_rejects source)
    (accepts_or_rejects source body)

end

def placed : Json :=
  .object [("occurredAt", .string "2024-05-01T10:00:00+02:00"), ("kind", .null),
    ("kind", .string "placed"), ("payload", .object [("total", .int 2), ("gone", .null)])]

end Feed
end Casebook
