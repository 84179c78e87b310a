import Casebook.Event
import Casebook.Json.Printer
import Casebook.Json.Reader
import Casebook.Time.Reader

/-!
# Decoded bodies

The body of a source's answer is a list of records, or an object with such a list as its `items`. Each
record gives one event. A body with one bad record gives none; what is wrong is told without a word of
the body's content.
-/

namespace Casebook.Feed

inductive RecordFault where
  | notObject (shape : String)
  | missingKind
  | badKind
  | missingTime
  | timeNotText
  | badTime
  deriving DecidableEq, Repr

def RecordFault.message : RecordFault → String
  | .notObject shape => s!"expected object, got {shape}"
  | .missingKind => "missing kind"
  | .badKind => "kind must be a non-empty string"
  | .missingTime => "missing occurredAt"
  | .timeNotText => "occurredAt must be a string"
  | .badTime => "occurredAt is not an ISO-8601 timestamp"

inductive Reason where
  | notJson (line : Nat)
  | noItems
  | notList
  | badRecord (index : Nat) (fault : RecordFault)
  deriving DecidableEq, Repr

def Reason.message : Reason → String
  | .notJson line => s!"invalid JSON at line {Decimal.natText line}"
  | .noItems => "object without an items array"
  | .notList => "expected a list of records"
  | .badRecord i f => s!"record {Decimal.natText i}: {f.message}"

structure Fault where
  reason : Reason
  bodyBytes : Nat
  shape : String
  deriving DecidableEq, Repr

def Fault.message (f : Fault) : String :=
  s!"{f.reason.message} (shape={f.shape}, body_bytes={Decimal.natText f.bodyBytes})"

/-- The text that a payload member becomes: a text stays as it is, null gives none, and everything else
is written out. -/
def payloadText? : Json → Option String
  | .null => none
  | .string s => some s
  | v => some v.text

/-- The payload of a record: of an object each member that has a text. -/
def payloadOf : Option Json → Payload
  | some (.object ms) =>
    Payload.ofList (ms.filterMap fun (k, v) => (payloadText? v).map fun s => (k, s))
  | _ => Payload.empty

/-- The kind of a record, which is not blank. -/
def kindOf : Option Json → Except RecordFault String
  | some (.string s) => if Text.trim s.toList = [] then .error .badKind else .ok s
  | some _ => .error .badKind
  | none => .error .missingKind

def timeOf : Option Json → Except RecordFault Instant
  | some (.string s) =>
    match Instant.read? s.toList with
    | some t => .ok t
    | none => .error .badTime
  | some _ => .error .timeNotText
  | none => .error .missingTime

def decodeRecord (source : Source) (v : Json) : Except RecordFault Event :=
  match v with
  | .object _ => do
    let kind ← kindOf (v.member? "kind")
    let occurredAt ← timeOf (v.member? "occurredAt")
    .ok { source, occurredAt, kind, payload := payloadOf (v.member? "payload") }
  | _ => .error (.notObject v.shape)

/-- The events of records, counted from `index`. -/
def decodeRecords (source : Source) : Nat → List Json → Except Reason (List Event)
  | _, [] => .ok []
  | index, v :: r => do
    let e ← (decodeRecord source v).mapError (.badRecord index)
    let es ← decodeRecords source (index + 1) r
    .ok (e :: es)

def recordsOf : Json → Except Reason (List Json)
  | .array items => .ok items
  | .object ms =>
    match (Json.object ms).member? "items" with
    | some (.array items) => .ok items
    | _ => .error .noItems
  | _ => .error .notList

def decode (source : Source) (body : Bytes) : Except Fault (List Event) :=
  match Json.read body with
  | .error line => .error ⟨.notJson line, body.length, "invalid_json"⟩
  | .ok v =>
    let v := v.canonical
    match recordsOf v >>= decodeRecords source 0 with
    | .error reason => .error ⟨reason, body.length, v.shape⟩
    | .ok es => .ok es

end Casebook.Feed
