import Casebook.Entry
import Casebook.Json.Record
import Casebook.Json.Printer
import Casebook.Json.Reader
import Casebook.Time.Format
import Casebook.Time.Reader

/-!
# Case records

The document forms of case ids, sources, events, timelines, entries and case views. Each form is
written with all its members in a fixed order and read with `ofJson?`; an event may be read without its
payload.
-/

namespace Casebook

structure CaseView where
  caseId : CaseId
  timeline : Option Timeline
  deriving DecidableEq

open Json (Record)

def CaseId.ofJson? (v : Json) : Option CaseId :=
  v.asString?.bind fun s => (CaseId.parse s).toOption

def CaseId.toJson (c : CaseId) : Json := .string c.text

def Source.toJson (s : Source) : Json := .string s.name

def Source.ofJson? (v : Json) : Option Source :=
  Json.named? Source.name Source.all v

def Stage.toJson (s : Stage) : Json := .string s.label

def Stage.ofJson? (v : Json) : Option Stage :=
  Json.named? Stage.label Stage.all v

def Instant.toJson (t : Instant) : Json := .string t.text

def Instant.ofJson? (v : Json) : Option Instant :=
  v.asString?.bind fun s => Instant.relaxed? s.toList

def Payload.toJson (p : Payload) : Json :=
  .object (p.entries.map fun e => (e.1, .string e.2))

def Json.textMember? (m : String × Json) : Option (String × String) :=
  m.2.asString?.map fun s => (m.1, s)

def Payload.ofJson? : Json → Option Payload
  | .object ms => (ms.mapM Json.textMember?).map Payload.ofList
  | _ => none

def Event.toJson (e : Event) : Json :=
  .object [("source", e.source.toJson), ("occurredAt", e.occurredAt.toJson),
    ("kind", .string e.kind), ("payload", e.payload.toJson)]

/-- The event that a record holds. -/
def Event.ofJson? (v : Json) : Option Event := do
  let r ← Record.ofJson? ["source", "occurredAt", "kind", "payload"] v
  let source ← Source.ofJson? (← r.required? 0)
  let occurredAt ← Instant.ofJson? (← r.required? 1)
  let kind ← (← r.required? 2).asString?
  let payload ← Payload.ofJson? (r.orElse 3 (.object []))
  some { source, occurredAt, kind, payload }

def Event.listToJson (es : List Event) : Json :=
  .array (es.map Event.toJson)

def Timeline.toJson (t : Timeline) : Json :=
  .object [("events", Event.listToJson t.events), ("degraded", .bool t.degraded),
    ("missingSources", .array (t.missing.members.map Source.toJson))]

def Timeline.ofJson? (v : Json) : Option Timeline := do
  let r ← Record.ofJson? ["events", "degraded", "missingSources"] v
  let events ← (← (← r.required? 0).asArray?).mapM Event.ofJson?
  let degraded ← (← r.required? 1).asBool?
  let missing ← (← (← r.required? 2).asArray?).mapM Source.ofJson?
  some { events, degraded, missing := SourceSet.ofList missing }

def Entry.toJson (e : Entry) : Json :=
  .object [("caseId", e.caseId.toJson), ("timeline", e.timeline.toJson),
    ("storedAt", e.storedAt.toJson), ("ttlSeconds", .int e.ttlSeconds)]

def Entry.ofJson? (v : Json) : Option Entry := do
  let r ← Record.ofJson? ["caseId", "timeline", "storedAt", "ttlSeconds"] v
  let caseId ← CaseId.ofJson? (← r.required? 0)
  let timeline ← Timeline.ofJson? (← r.required? 1)
  let storedAt ← Instant.ofJson? (← r.required? 2)
  let ttlSeconds ← (← r.required? 3).asNat?
  if h : ttlSeconds ≤ Decimal.max64 then some { caseId, timeline, storedAt, ttlSeconds, ttl_le := h }
  else none

def Entry.toBytes (e : Entry) : Bytes :=
  Bytes.ofText e.toJson.text

/-- The entry that bytes hold. -/
def Entry.ofBytes? (b : Bytes) : Option Entry :=
  (Json.outline? b).bind Entry.ofJson?

def CaseView.toJson (v : CaseView) : Json :=
  .object (("caseId", v.caseId.toJson) ::
    v.timeline.toList.map fun t => ("timeline", t.toJson))

def CaseView.ofJson? (v : Json) : Option CaseView := do
  let r ← Record.ofJson? ["caseId", "timeline"] v
  let caseId ← CaseId.ofJson? (← r.required? 0)
  match ← r.optional? 1 with
  | none => some ⟨caseId, none⟩
  | some t => some ⟨caseId, some (← Timeline.ofJson? t)⟩

end Casebook
