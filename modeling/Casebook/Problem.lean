import Casebook.Fault
import Casebook.Json.Printer

/-!
# Problems

The structured answer to a request or a start that fails: a code, a message and perhaps details. Every
fault has one; faults of the cache keep their reason to themselves.
-/

namespace Casebook

namespace Problem

inductive Code where
  | invalidInput
  | missingField
  | internalError
  | configurationError
  | serviceUnavailable
  deriving DecidableEq, Repr

namespace Code

def all : List Code :=
  [.invalidInput, .missingField, .internalError, .configurationError, .serviceUnavailable]

def title : Code → String
  | .invalidInput => "InvalidInput"
  | .missingField => "MissingField"
  | .internalError => "InternalError"
  | .configurationError => "ConfigurationError"
  | .serviceUnavailable => "ServiceUnavailable"

def name : Code → String
  | .invalidInput => "INVALID_INPUT"
  | .missingField => "MISSING_FIELD"
  | .internalError => "INTERNAL_ERROR"
  | .configurationError => "CONFIGURATION_ERROR"
  | .serviceUnavailable => "SERVICE_UNAVAILABLE"

def status : Code → Nat
  | .invalidInput => 400
  | .missingField => 400
  | .internalError => 500
  | .configurationError => 500
  | .serviceUnavailable => 503

end Code
end Problem

structure Problem where
  code : Problem.Code
  message : String
  details : Option Json

namespace Problem

def plain (code : Code) (message : String) : Problem := ⟨code, message, none⟩

def missingField (field : String) : Problem :=
  plain .missingField s!"Required field '{field}' is missing"

def ofInput : InputFault → Problem
  | .missing f => missingField f
  | .invalid f r =>
    ⟨.invalidInput, s!"Invalid {f}: {r}", some (.object [("field", .string f)])⟩

def ofSetting (f : SettingFault) : Problem :=
  plain .configurationError f.message

def ofCache : CacheFault → Problem
  | .unsupported u => plain .configurationError (CacheFault.unsupported u).message
  | _ => plain .serviceUnavailable "Timeline cache is unavailable"

def ofIo (message : String) : Problem :=
  plain .internalError s!"I/O error: {message}"

def display (p : Problem) : String :=
  s!"{p.code.title}: {p.message}"

/-- The record of a problem: details are left out if there are none. -/
def toJson (p : Problem) : Json :=
  .object ([("code", .string p.code.name), ("message", .string p.message)] ++
    p.details.toList.map fun d => ("details", d))

end Problem
end Casebook
