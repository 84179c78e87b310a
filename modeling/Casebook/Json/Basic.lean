import Casebook.Decimal.Binary64
import Casebook.Text.Keyed

/-!
# Documents

Values of the document format in which events, timelines and errors travel: what the reader yields and
the printer writes. An object keeps its members in the order in which they stand; `canonical` gives the
form in which they are sorted by name and the last value of a name wins.
-/

namespace Casebook

open Decimal (Binary64)

inductive Json where
  | null
  | bool (b : Bool)
  /-- A whole number within sixty-four bits. -/
  | int (n : Int)
  /-- Any other number, finite. -/
  | float (d : Binary64)
  | string (s : String)
  | array (items : List Json)
  | object (members : List (String × Json))
  /-- A token that ends where it should but denotes nothing: only the outline reading yields it. -/
  | faulty
  deriving Inhabited

namespace Json

mutual
/-- The same value with the members of every object in their canonical order. -/
def canonical : Json → Json
  | .array items => .array (canonicalItems items)
  | .object ms => .object (Keyed.ofList (canonicalMembers ms))
  | v => v

def canonicalItems : List Json → List Json
  | [] => []
  | v :: r => canonical v :: canonicalItems r

def canonicalMembers : List (String × Json) → List (String × Json)
  | [] => []
  | (k, v) :: r => (k, canonical v) :: canonicalMembers r
end

mutual
/-- The number of arrays and objects that are open at the deepest point. -/
def depth : Json → Nat
  | .array items => depthItems items + 1
  | .object ms => depthMembers ms + 1
  | _ => 0

def depthItems : List Json → Nat
  | [] => 0
  | v :: r => max (depth v) (depthItems r)

def depthMembers : List (String × Json) → Nat
  | [] => 0
  | (_, v) :: r => max (depth v) (depthMembers r)
end

mutual
def isSound : Json → Bool
  | .array items => isSoundItems items
  | .object ms => isSoundMembers ms
  | .faulty => false
  | _ => true

def isSoundItems : List Json → Bool
  | [] => true
  | v :: r => isSound v && isSoundItems r

def isSoundMembers : List (String × Json) → Bool
  | [] => true
  | (_, v) :: r => isSound v && isSoundMembers r
end

/-- The name of a value's shape, which says nothing of its content. -/
def shape : Json → String
  | .null => "null"
  | .bool _ => "bool"
  | .int _ => "number"
  | .float _ => "number"
  | .string _ => "string"
  | .array _ => "array"
  | .object _ => "object"
  | .faulty => "null"

/-- The value of the first member with a name; the value of the last one on canonical objects. -/
def member? (name : String) : Json → Option Json
  | .object ms => Keyed.find? name ms
  | _ => none

end Json
end Casebook
