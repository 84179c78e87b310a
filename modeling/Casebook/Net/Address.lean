import Casebook.Text.Hex

/-!
# Socket addresses

A host address with a port, read from text and written in canonical form. An address of four bytes is
written with points; one of eight groups stands in brackets, in hexadecimal digits, with its longest
run of zero groups left out, and may name a zone.
-/

namespace Casebook.Net

inductive Address where
  | four (bytes : List Nat) (port : Nat)
  | six (groups : List Nat) (zone port : Nat)
  deriving DecidableEq, Repr

namespace Address

def number? (limit : Nat) (s : List Char) : Option (Nat × List Char) :=
  let ds := s.takeWhile Decimal.isDigit
  if ds.isEmpty || limit < Decimal.value ds then none
  else some (Decimal.value ds, s.dropWhile Decimal.isDigit)

def mark? (c : Char) : List Char → Option (List Char)
  | [] => none
  | d :: r => if d = c then some r else none

/-- Takes a byte: up to three digits, no zero in front of others. -/
def byte? (s : List Char) : Option (Nat × List Char) :=
  let ds := s.takeWhile Decimal.isDigit
  if 3 < ds.length || (1 < ds.length && ds.head? = some '0') then none else number? 255 s

def four? (s : List Char) : Option (List Nat × List Char) := do
  let (a, s) ← byte? s
  let (b, s) ← byte? (← mark? '.' s)
  let (c, s) ← byte? (← mark? '.' s)
  let (d, s) ← byte? (← mark? '.' s)
  some ([a, b, c, d], s)

/-- Takes a group: up to four hexadecimal digits. -/
def group? (s : List Char) : Option (Nat × List Char) :=
  let ds := s.takeWhile Text.isHexDigit
  if ds.isEmpty || 4 < ds.length then none else some (Text.hexNumber ds, s.drop ds.length)

def colon? (first : Bool) (s : List Char) : Option (List Char) :=
  if first then some s else mark? ':' s

/-- Groups with colons between them, at most `room`; four bytes may stand for the last two. -/
def groups : Nat → Bool → List Char → List Nat × Bool × List Char
  | 0, _, s => ([], false, s)
  | room + 1, first, s =>
    let bytes := if room = 0 then none else (colon? first s).bind four?
    match bytes with
    | some ([a, b, c, d], r) => ([a * 256 + b, c * 256 + d], true, r)
    | _ =>
      match (colon? first s).bind group? with
      | none => ([], false, s)
      | some (g, r) =>
        let (gs, isFour, r) := groups room false r
        (g :: gs, isFour, r)

/-- Takes eight groups, or fewer with two colons for the zeros left out. -/
def six? (s : List Char) : Option (List Nat × List Char) :=
  let (front, isFour, r) := groups 8 true s
  if front.length = 8 then some (front, r)
  else if isFour then none
  else do
    let r ← mark? ':' (← mark? ':' r)
    let (back, _, r) := groups (7 - front.length) true r
    some (front ++ List.replicate (8 - front.length - back.length) 0 ++ back, r)

def zone (s : List Char) : Nat × List Char :=
  ((mark? '%' s).bind (number? (1 <<< 32 - 1))).getD (0, s)

def port? (s : List Char) : Option (Nat × List Char) := do
  number? Decimal.max16 (← mark? ':' s)

def readFour? (s : List Char) : Option Address := do
  let (bytes, s) ← four? s
  let (port, s) ← port? s
  if s.isEmpty then some (.four bytes port) else none

def readSix? (s : List Char) : Option Address := do
  let (groups, s) ← six? (← mark? '[' s)
  let (zone, s) := zone s
  let (port, s) ← port? (← mark? ']' s)
  if s.isEmpty then some (.six groups zone port) else none

def read? (s : String) : Option Address :=
  (readFour? s.toList).orElse fun _ => readSix? s.toList

/-- Whether every machine has an address: it stands for all addresses, or for the machine itself. -/
def isEverywhere : Address → Bool
  | .four bytes _ => bytes = [0, 0, 0, 0] || bytes.head? = some 127
  | .six groups _ _ =>
    groups.dropLast.all (· = 0) && groups.getLast?.any (· ≤ 1)

def dotted (bytes : List Nat) : String :=
  ".".intercalate (bytes.map Decimal.natText)

def coloned (groups : List Nat) : String :=
  ":".intercalate (groups.map fun g => String.ofList (Nat.toDigits 16 g))

/-- The longest run of zeros, as its start and length; of several the first. -/
def longestZeros (groups : List Nat) : Nat × Nat :=
  (List.range groups.length).foldl (fun best start =>
    let run := ((groups.drop start).takeWhile (· = 0)).length
    if best.2 < run then (start, run) else best) (0, 0)

def sixText (groups : List Nat) : String :=
  match groups with
  | [0, 0, 0, 0, 0, 0xffff, a, b] => "::ffff:" ++ dotted [a / 256, a % 256, b / 256, b % 256]
  | _ =>
    let (start, run) := longestZeros groups
    if run ≤ 1 then coloned groups
    else coloned (groups.take start) ++ "::" ++ coloned (groups.drop (start + run))

def text : Address → String
  | .four bytes port => s!"{dotted bytes}:{Decimal.natText port}"
  | .six groups zone port =>
    let zoneText := if zone = 0 then "" else "%" ++ Decimal.natText zone
    s!"[{sixText groups}{zoneText}]:{Decimal.natText port}"

end Address
end Casebook.Net
