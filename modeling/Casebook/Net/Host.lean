import Casebook.Net.Address
import Casebook.Net.Domain
import Casebook.Text.Percent

/-!
# Hosts

The machine that an address names: by four bytes, by eight groups in brackets, or by a domain name. Four
bytes may be written as fewer numbers, of which the last one fills what is left, and each number in
eight, ten or sixteen digits; a name that ends in a number is always read in this way.
-/

namespace Casebook.Net.Host

open Text (hexNumber isHexDigit parts)

def isOctalDigit (c : Char) : Bool := '0' ≤ c && c ≤ '7'

def octalNumber (s : List Char) : Nat := s.foldl (fun n c => n * 8 + (c.toNat - '0'.toNat)) 0

/-- A number in ten digits, in eight behind a zero, or in sixteen, perhaps none, behind `0x`. -/
def number? (s : List Char) : Option Nat :=
  match s with
  | [] => none
  | ['0'] => some 0
  | '0' :: 'x' :: r => if r.all isHexDigit then some (hexNumber r) else none
  | '0' :: 'X' :: r => if r.all isHexDigit then some (hexNumber r) else none
  | '0' :: r => if r.all isOctalDigit then some (octalNumber r) else none
  | s => if s.all Decimal.isDigit then some (Decimal.value s) else none

/-- The labels of a name without the empty one behind a point at its end. -/
def labels (name : List Char) : List (List Char) :=
  let ls := parts (· = '.') name
  if ls.getLast? = some [] then ls.dropLast else ls

def endsInNumber (name : List Char) : Bool :=
  (labels name).getLast?.any fun l => !l.isEmpty && (l.all Decimal.isDigit || (number? l).isSome)

def bytes? (name : List Char) : Option (List Nat) := do
  let ns ← (labels name).mapM number?
  let last ← ns.getLast?
  let left := 5 - ns.length
  if 4 < ns.length || ns.dropLast.any (255 < ·) || 1 <<< (8 * left) ≤ last then none
  else some (ns.dropLast ++ ((List.range left).reverse.map fun i => last >>> (8 * i) % 256))

/-- The host in brackets, of which the first one is left out. -/
def bracketed? (s : List Char) : Option String := do
  let (groups, r) ← Address.six? s
  if r = [']'] then some s!"[{Address.sixText groups}]" else none

def web? (s : List Char) : Option String :=
  match s with
  | '[' :: r => bracketed? r
  | _ => do
    let name ← (Text.percentDecode (Bytes.ofText (String.ofList s))).toText?
    let ascii ← Domain.ascii? name.toList
    if ascii.isEmpty then none
    else if endsInNumber ascii then (bytes? ascii).map Address.dotted
    else some (String.ofList ascii)

def isForbidden (c : Char) : Bool :=
  c ∈ ['\x00', '\t', '\n', '\r', ' ', '#', '/', ':', '<', '>', '?', '@', '[', '\\', ']', '^', '|']

def other? (s : List Char) : Option String :=
  match s with
  | '[' :: r => bracketed? r
  | _ =>
    if s.any isForbidden then none
    else some (String.ofList (Text.percentEncode (fun _ => false) s))

end Casebook.Net.Host
