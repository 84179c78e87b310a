import Casebook.Json.Basic

/-!
# Log lines

What the service says while it starts: a level, the part that speaks, a message and named values. A
value may come with the lines that making it gave rise to.
-/

namespace Casebook.Log

inductive Level where
  | info
  | warning
  | error
  deriving DecidableEq, Repr

def Level.name : Level → String
  | .info => "INFO"
  | .warning => "WARN"
  | .error => "ERROR"

structure Line where
  level : Level
  target : String
  message : String
  fields : List (String × Json)

def Line.toJson (l : Line) : Json :=
  .object [("level", .string l.level.name), ("target", .string l.target),
    ("fields", .object (("message", .string l.message) :: l.fields))]

/-- A value and the lines that making it gave rise to, in order. -/
structure Noted (α : Type) where
  value : α
  lines : List Line

namespace Noted

def note (l : Line) : Noted Unit := ⟨(), [l]⟩

instance : Monad Noted where
  pure a := ⟨a, []⟩
  bind m f :=
    let n := f m.value
    ⟨n.value, m.lines ++ n.lines⟩

end Noted
end Casebook.Log
