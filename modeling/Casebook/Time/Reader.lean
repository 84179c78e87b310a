import Casebook.Time.Instant
import Casebook.Text.Blank

/-!
# Read instants

Three forms in which instants are read. The strict form is that of the internet standard: fixed widths
and an offset from UTC. The local form has no offset and means UTC; its fields may be shorter and have
blanks before them. The relaxed form has the fields of the local one and an offset, which may also be
the word `UTC`. A second of sixty is a leap second, in any minute.
-/

namespace Casebook.Instant

open Text (trimLeft)

abbrev Field (α : Type) := Option (α × List Char)

/-- Digits: at least `least`, and as many as there are up to `most`. -/
def digits? (least most : Nat) (s : List Char) : Option (Nat × List Char) :=
  let ds := (s.take most).takeWhile Decimal.isDigit
  if ds.length < least then none else some (Decimal.value ds, s.drop ds.length)

def char? (c : Char) : List Char → Option (List Char)
  | [] => none
  | d :: r => if d = c then some r else none

def oneOf? (cs : List Char) : List Char → Option (List Char)
  | [] => none
  | d :: r => if d ∈ cs then some r else none

/-- A fraction of a second in nanoseconds, if a point is there; digits beyond the ninth are dropped. -/
def fraction? (s : List Char) : Option (Nat × List Char) :=
  match s with
  | '.' :: r =>
    let ds := (r.take 9).takeWhile Decimal.isDigit
    if ds.isEmpty then none
    else some (Decimal.value ds * Nat.pow 10 (9 - ds.length), r.dropWhile Decimal.isDigit)
  | _ => some (0, s)

structure Fields where
  date : Date
  hour : Nat
  minute : Nat
  second : Nat
  nanos : Nat

def Fields.at? (f : Fields) (offset : Int) : Option Instant :=
  if f.date.isValid && firstYear ≤ f.date.year && f.date.year ≤ lastYear && f.hour < 24 &&
      f.minute < 60 && f.second ≤ 60 then
    let leap := f.second = 60
    let second := if leap then 59 else f.second
    of? (f.date.number * perDay + f.hour * 3600 + f.minute * 60 + second - offset * 60)
      (f.nanos + if leap then Span.perSecond else 0)
  else none

def offsetDigits? (separator : List Char → Option (List Char)) (s : List Char) :
    Option (Nat × List Char) := do
  let (h, s) ← digits? 2 2 s
  let s ← separator s
  let (m, s) ← digits? 2 2 s
  if h < 24 && m < 60 then some (h * 60 + m, s) else none

def minusSign : Char := '\u2212'

/-- An offset in minutes: the letter `Z`, or a sign with hours and minutes. -/
def offset? (separator : List Char → Option (List Char)) : List Char → Option (Int × List Char)
  | [] => none
  | c :: r =>
    if c = 'Z' || c = 'z' then some (0, r)
    else if c = '+' then (offsetDigits? separator r).map fun (m, r) => ((m : Int), r)
    else if c = '-' || c = minusSign then
      (offsetDigits? separator r).map fun (m, r) => (-(m : Int), r)
    else none

def strict? (s : List Char) : Option Instant := do
  let (year, s) ← digits? 4 4 s
  let (month, s) ← digits? 2 2 (← char? '-' s)
  let (day, s) ← digits? 2 2 (← char? '-' s)
  let (hour, s) ← digits? 2 2 (← oneOf? ['T', 't', ' '] s)
  let (minute, s) ← digits? 2 2 (← char? ':' s)
  let (second, s) ← digits? 2 2 (← char? ':' s)
  let (nanos, s) ← fraction? s
  let (offset, s) ← offset? (char? ':') s
  if s.isEmpty then Fields.at? ⟨⟨year, month, day⟩, hour, minute, second, nanos⟩ offset else none

/-- A year behind blanks: four digits at most, or a sign and any number of them. -/
def year? (s : List Char) : Option (Int × List Char) :=
  match trimLeft s with
  | '-' :: r => (digits? 1 r.length r).map fun (y, r) => (-(y : Int), r)
  | '+' :: r => (digits? 1 r.length r).map fun (y, r) => ((y : Int), r)
  | r => (digits? 1 4 r).map fun (y, r) => ((y : Int), r)

def short? (s : List Char) : Option (Nat × List Char) :=
  digits? 1 2 (trimLeft s)

/-- The fields of the local and the relaxed form: `gap` passes what may stand before a mark between
numbers, `middle` takes what stands between the day and the time. -/
def fields? (gap : List Char → List Char) (middle : List Char → Option (List Char))
    (s : List Char) : Option (Fields × List Char) := do
  let (year, s) ← year? s
  let (month, s) ← short? (← char? '-' (gap s))
  let (day, s) ← short? (← char? '-' (gap s))
  let (hour, s) ← short? (← middle s)
  let (minute, s) ← short? (← char? ':' (gap s))
  let (second, s) ← short? (← char? ':' (gap s))
  let (nanos, s) ← fraction? s
  some (⟨⟨year, month, day⟩, hour, minute, second, nanos⟩, s)

def local? (s : List Char) : Option Instant := do
  let (f, s) ← fields? id (char? 'T') s
  if s.isEmpty then f.at? 0 else none

/-- The offset of the relaxed form, also the word `UTC`; colons and blanks may part its numbers. -/
def relaxedOffset? (s : List Char) : Option (Int × List Char) :=
  if (s.take 3).map Char.toUpper = ['U', 'T', 'C'] then some (0, s.drop 3)
  else offset? (fun r => some (r.dropWhile fun c => c = ':' || Text.isBlank c)) s

def relaxed? (s : List Char) : Option Instant := do
  let (f, s) ← fields? trimLeft (oneOf? ['T', 't', ' ']) s
  let (offset, s) ← relaxedOffset? (trimLeft s)
  if (trimLeft s).isEmpty then f.at? offset else none

/-- Reads what a source sends: the strict form, else the local one, between blanks. -/
def read? (s : List Char) : Option Instant :=
  let t := Text.trim s
  (strict? t).orElse fun _ => local? t

end Casebook.Instant
