import Casebook.CaseId
import Casebook.Decimal.Digits
import Casebook.Text.Quoted

/-!
# Faults

What can be wrong with an input, with settings and with the cache, as causes; the text of each is given
by one function.
-/

namespace Casebook

inductive InputFault where
  | missing (field : String)
  | invalid (field reason : String)
  deriving DecidableEq, Repr

def InputFault.message : InputFault → String
  | .missing f => s!"Required field missing: {f}"
  | .invalid f r => s!"Invalid value for {f}: {r}"

def CaseId.Fault.toInput : CaseId.Fault → InputFault
  | .missing => .missing "case_id"
  | .tooLong => .invalid "case_id" s!"must be at most {Decimal.natText CaseId.maxLength} characters"
  | .badCharacter c => .invalid "case_id" s!"unexpected character {Text.quotedChar c}"

def CaseId.ofInput (raw : String) : Except InputFault CaseId :=
  (CaseId.parse raw).mapError CaseId.Fault.toInput

inductive SettingFault where
  | invalid (field value reason : String)
  /-- Two settings that do not go together. -/
  | incompatible (a b : String)
  deriving DecidableEq, Repr

def SettingFault.message : SettingFault → String
  | .invalid f v r => s!"Invalid value for {f}: {v} - {r}"
  | .incompatible a b => s!"Incompatible options: {a} and {b}"

inductive Outage where
  /-- A value does not fit into the map. -/
  | mapFull
  | unreachable
  /-- A call that the store was told to refuse. -/
  | refused (call : String)
  | other (reason : String)
  deriving DecidableEq, Repr

def Outage.message : Outage → String
  | .mapFull => "Transaction error: MDB_MAP_FULL: Environment mapsize limit reached"
  | .unreachable => "connection refused"
  | .refused call => s!"{call} refused"
  | .other r => r

inductive Damage where
  /-- The value is no written entry. -/
  | unreadable
  /-- The entry is of another case. -/
  | foreign (id : String)
  /-- The value is too short to hold its expiry. -/
  | short
  | other (reason : String)
  deriving DecidableEq, Repr

def Damage.message : Damage → String
  | .unreadable => "not a readable entry"
  | .foreign id => s!"entry belongs to case {id}"
  | .short => "value shorter than expiry prefix"
  | .other r => r

inductive CacheFault where
  | unavailable (backend : String) (outage : Outage)
  | corrupt (key : String) (damage : Damage)
  | unserializable (reason : String)
  | unsupported (url : String)
  deriving DecidableEq, Repr

def CacheFault.message : CacheFault → String
  | .unavailable b o => s!"Cache backend {b} unavailable: {o.message}"
  | .corrupt k d => s!"Corrupt cache entry at {k}: {d.message}"
  | .unserializable r => s!"Failed to serialize cache entry: {r}"
  | .unsupported u => s!"Unsupported cache backend URL: {u}"

inductive Fault where
  | input (f : InputFault)
  | setting (f : SettingFault)
  | cache (f : CacheFault)
  deriving DecidableEq, Repr

def Fault.message : Fault → String
  | .input f => s!"Validation error: {f.message}"
  | .setting f => s!"Config error: {f.message}"
  | .cache f => s!"Cache error: {f.message}"

end Casebook
