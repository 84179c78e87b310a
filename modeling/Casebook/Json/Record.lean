import Casebook.Json.Basic

/-!
# Records

A record is an object with members of known names, or an array with the members in the order of the
names. Members of other names are passed over, a known name may stand once, and an array holds no more
items than there are names.
-/

namespace Casebook.Json

structure Record where
  values : List (Option Json)
  /-- Whether the record was an array, in which no member may be left out. -/
  positional : Bool

namespace Record

/-- The only value of a name: `none` if there are several, `some none` if there is no value. -/
def only? (name : String) (ms : List (String × Json)) : Option (Option Json) :=
  match ms.filter fun m => m.1 = name with
  | [] => some none
  | [m] => some (some m.2)
  | _ => none

def ofJson? (names : List String) : Json → Option Record
  | .object ms => (names.mapM fun n => only? n ms).map fun vs => ⟨vs, false⟩
  | .array items =>
    if items.length ≤ names.length then
      some ⟨items.map some ++ List.replicate (names.length - items.length) none, true⟩
    else none
  | _ => none

def required? (r : Record) (i : Nat) : Option Json :=
  (r.values[i]?).join

/-- The member at a position, which may be left out of an object or be null. -/
def optional? (r : Record) (i : Nat) : Option (Option Json) :=
  match (r.values[i]?).join with
  | some .null => some none
  | some v => some (some v)
  | none => if r.positional then none else some none

def orElse (r : Record) (i : Nat) (standIn : Json) : Json :=
  ((r.values[i]?).join).getD standIn

end Record

def asString? : Json → Option String
  | .string s => some s
  | _ => none

def asBool? : Json → Option Bool
  | .bool b => some b
  | _ => none

def asArray? : Json → Option (List Json)
  | .array items => some items
  | _ => none

def asNat? : Json → Option Nat
  | .int n => if 0 ≤ n then some n.toNat else none
  | _ => none

def asFloat? : Json → Option Decimal.Binary64
  | .int n => some (.ofInt n)
  | .float d => some d
  | _ => none

/-- The name of a choice: a text, or an object whose one member has the name and is null. -/
def asChoice? : Json → Option String
  | .string s => some s
  | .object [(k, .null)] => some k
  | _ => none

def named? {α : Type} (name : α → String) (all : List α) (v : Json) : Option α :=
  v.asChoice?.bind fun s => all.find? fun a => name a = s

end Casebook.Json
