import Casebook.Time.Instant

/-!
# Written instants

The one text form in which instants are written: the day, the letter `T`, the time of day and the
letter `Z`. The fraction has no digits, or three, six or nine, the fewest that are exact.
-/

namespace Casebook.Instant

open Decimal (padded)

/-- A year: four digits, and a sign if it does not fit them. -/
def yearText (y : Int) : List Char :=
  if 0 ≤ y && y ≤ 9999 then padded 4 y.natAbs
  else (if y < 0 then '-' else '+') :: padded 4 y.natAbs

def fractionText (nanos : Nat) : List Char :=
  if nanos = 0 then []
  else if nanos % 1000000 = 0 then '.' :: padded 3 (nanos / 1000000)
  else if nanos % 1000 = 0 then '.' :: padded 6 (nanos / 1000)
  else '.' :: padded 9 nanos

def chars (t : Instant) : List Char :=
  let s := t.secondOfDay
  yearText t.date.year ++ '-' :: padded 2 t.date.month ++ '-' :: padded 2 t.date.day ++
    'T' :: padded 2 (s / 3600) ++ ':' :: padded 2 (s / 60 % 60) ++
    ':' :: padded 2 (s % 60 + if t.isLeap then 1 else 0) ++
    fractionText (if t.isLeap then t.nanos - Span.perSecond else t.nanos) ++ ['Z']

def text (t : Instant) : String :=
  String.ofList t.chars

end Casebook.Instant
