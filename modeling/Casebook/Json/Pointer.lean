import Casebook.Decimal.Digits
import Casebook.Json.Basic
import Casebook.Text.Table

/-!
# Pointers

A text that names a place in a document: a name of a member or a place in an array behind each slash. A
slash within a name is written `~1` and a tilde `~0`.
-/

namespace Casebook.Json

/-- A written name with its marks resolved. -/
def unescapedName : List Char → List Char
  | '~' :: '1' :: r => '/' :: unescapedName r
  | '~' :: '0' :: r => '~' :: unescapedName r
  | c :: r => c :: unescapedName r
  | [] => []

/-- A written place in an array: digits without a zero in front. -/
def place? (s : List Char) : Option Nat :=
  if s.isEmpty || !s.all Decimal.isDigit || (1 < s.length && s.head? = some '0') then none
  else some (Decimal.value s)

def step? (v : Json) (written : List Char) : Option Json :=
  let name := unescapedName written
  match v with
  | .object _ => v.member? (String.ofList name)
  | .array items => (place? name).bind fun i => items[i]?
  | _ => none

def steps? (v : Json) : List (List Char) → Option Json
  | [] => some v
  | s :: r => (step? v s).bind fun w => steps? w r

def at? (v : Json) (pointer : String) : Option Json :=
  match Text.parts (· = '/') pointer.toList with
  | [] :: r => steps? v r
  | _ => none

def names? (v : Json) : Option (List String) :=
  match v with
  | .object ms => some ((Keyed.ofList ms).map (·.1))
  | _ => none

end Casebook.Json
