import Casebook.Event

/-!
# Outcomes

What asking one source gave. A failure is an outcome like any other and belongs to a stage.
-/

namespace Casebook

inductive Stage where
  | http
  | decode
  /-- The joining itself: a source's task was lost. -/
  | aggregate
  deriving DecidableEq, Repr

namespace Stage

def all : List Stage := [.http, .decode, .aggregate]

def label : Stage → String
  | .http => "http"
  | .decode => "decode"
  | .aggregate => "aggregate"

end Stage

/-- What asking one source gave. -/
inductive Outcome where
  | success (events : List Event)
  | timeout
  /-- The status is missing if no response came. -/
  | failed (status : Option Nat)
  | undecodable
  deriving DecidableEq

namespace Outcome

def isSuccess : Outcome → Bool
  | .success _ => true
  | _ => false

def label : Outcome → String
  | .success _ => "success"
  | .timeout => "timeout"
  | .failed _ => "upstream_error"
  | .undecodable => "decode_error"

def stage? : Outcome → Option Stage
  | .success _ => none
  | .timeout => some .http
  | .failed _ => some .http
  | .undecodable => some .decode

def events : Outcome → List Event
  | .success es => es
  | _ => []

end Outcome
end Casebook
