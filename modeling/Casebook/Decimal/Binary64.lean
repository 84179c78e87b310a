/-!
# Double precision numbers

The sixty-four bit binary format as exact arithmetic on naturals: a finite number is a sign and
`significand * 2 ^ exponent`, and every positive ratio of naturals rounds to the nearest such number,
ties going to the even significand.
-/

namespace Casebook.Decimal

/-- A double precision number, given by its bits. -/
structure Binary64 where
  bits : UInt64
  deriving DecidableEq, Repr, Inhabited

namespace Binary64

def isNegative (d : Binary64) : Bool :=
  1 <<< 63 ≤ d.bits.toNat

def exponentField (d : Binary64) : Nat :=
  d.bits.toNat / 1 <<< 52 % 1 <<< 11

def fractionField (d : Binary64) : Nat :=
  d.bits.toNat % 1 <<< 52

def isFinite (d : Binary64) : Bool :=
  d.exponentField ≠ 2047

def isNaN (d : Binary64) : Bool :=
  d.exponentField = 2047 && d.fractionField ≠ 0

/-- The natural significand of a finite number. -/
def significand (d : Binary64) : Nat :=
  if d.exponentField = 0 then d.fractionField else d.fractionField + 1 <<< 52

/-- The power of two that scales the significand of a finite number. -/
def exponent (d : Binary64) : Int :=
  if d.exponentField = 0 then -1074 else d.exponentField - 1075

def ofMagnitude (negative : Bool) (magnitude : Nat) : Binary64 :=
  ⟨UInt64.ofNat (magnitude + if negative then 1 <<< 63 else 0)⟩

def zero (negative : Bool) : Binary64 :=
  ofMagnitude negative 0

def infinity (negative : Bool) : Binary64 :=
  ofMagnitude negative (2047 <<< 52)

/-- The quotient rounded to the nearest natural, a tie going to the even one. -/
def roundDiv (num den : Nat) : Nat :=
  let q := num / den
  let r := num % den
  if 2 * r < den then q else if den < 2 * r then q + 1 else q + q % 2

/-- `num / den` in units of `2 ^ e`, rounded to the nearest natural. -/
def scaledRound (num den : Nat) (e : Int) : Nat :=
  roundDiv (num <<< (-e).toNat) (den <<< e.toNat)

/-- The exponent whose unit leaves fifty-three significant bits of `num / den`, or the least one. -/
def unitExponent (num den : Nat) : Int :=
  let guess : Int := (Nat.log2 num : Int) - (Nat.log2 den : Int) - 52
  let fits := num <<< (-guess).toNat / den <<< guess.toNat < 1 <<< 52
  max (if fits then guess - 1 else guess) (-1074)

/-- The number nearest to `± num / den`; `none` when it lies beyond the largest finite one. -/
def nearest? (negative : Bool) (num den : Nat) : Option Binary64 :=
  if num = 0 then some (zero negative)
  else
    let e := unitExponent num den
    let m := scaledRound num den e
    let magnitude := m + (e + 1074).toNat <<< 52
    if magnitude < 2047 <<< 52 then some (ofMagnitude negative magnitude) else none

/-- The number nearest to `± n * 10 ^ e`; `none` when it lies beyond the largest finite one. -/
def ofDecimal? (negative : Bool) (n : Nat) (e : Int) : Option Binary64 :=
  if n = 0 then some (zero negative)
  else if 400 < (Nat.log2 n : Int) * 3 / 10 + e then none
  else if e + (Nat.log2 n : Int) + 1 < -400 then some (zero negative)
  else nearest? negative (n * Nat.pow 10 e.toNat) (Nat.pow 10 (-e).toNat)

def ofInt (i : Int) : Binary64 :=
  (nearest? (i < 0) i.natAbs 1).getD (infinity (i < 0))

def floor (d : Binary64) : Nat :=
  d.significand <<< d.exponent.toNat >>> (-d.exponent).toNat

/-- A natural number rounded to fifty-three significant bits. -/
def roundNat (n : Nat) : Nat :=
  ((nearest? false n 1).getD (infinity false)).floor

def ratio (a b : Nat) : Binary64 :=
  (nearest? false (roundNat a) (roundNat b)).getD (infinity false)

/-- The place of a number that is not a NaN in the order of numbers; both zeros have the same. -/
def place (d : Binary64) : Int :=
  if d.isNegative then -((d.bits.toNat % 1 <<< 63 : Nat) : Int) else (d.bits.toNat : Int)

def atMost (a b : Binary64) : Bool :=
  !a.isNaN && !b.isNaN && a.place ≤ b.place

/-- A finite number in units of `2 ^ -1074`. -/
def units (d : Binary64) : Int :=
  let m : Nat := d.significand <<< (d.exponent + 1074).toNat
  if d.isNegative then -m else m

def notANumber : Binary64 := ⟨0x7ff8000000000000⟩

def plus (a b : Binary64) : Binary64 :=
  if a.isNaN || b.isNaN then notANumber
  else if !a.isFinite then
    if !b.isFinite && a.isNegative ≠ b.isNegative then notANumber else a
  else if !b.isFinite then b
  else
    let sum := a.units + b.units
    if sum = 0 then zero (a.isNegative && b.isNegative)
    else (nearest? (sum < 0) sum.natAbs (1 <<< 1074)).getD (infinity (sum < 0))

def hex (d : Binary64) : String :=
  let ds := Nat.toDigits 16 d.bits.toNat
  String.ofList (List.replicate (16 - ds.length) '0' ++ ds)

end Binary64
end Casebook.Decimal
