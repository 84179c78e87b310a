import Casebook.Decimal.Binary64
import Casebook.Decimal.Digits

/-!
# Scaled numbers

The quick way from decimal digits and a power of ten to a double precision number. Digits are gathered as
long as they stay within sixty-four bits and then left out; the gathered number is multiplied or divided
by the power. Each step is rounded for itself, so what comes out need not be the number that is nearest
to the digits, and a product may pass the largest finite number although the digits do not.
-/

namespace Casebook.Decimal

/-- Digits put behind a number within sixty-four bits, and those for which there is no room. -/
def gather (n : Nat) : List Char → Nat × List Char
  | [] => (n, [])
  | c :: r =>
    let more := n * 10 + (digitValue? c).getD 0
    if more ≤ max64 then gather more r else (n, c :: r)

namespace Binary64

/-- The product of two finite numbers that are not negative. -/
def times? (a b : Binary64) : Option Binary64 :=
  let e := a.exponent + b.exponent
  nearest? false ((a.significand * b.significand) <<< e.toNat) (1 <<< (-e).toNat)

/-- The quotient of two finite numbers that are not negative, the second of them at least one. -/
def dividedBy (a b : Binary64) : Binary64 :=
  let e := a.exponent - b.exponent
  (nearest? false (a.significand <<< e.toNat) (b.significand <<< (-e).toNat)).getD (infinity false)

/-- The last power of ten that is a finite number. -/
def lastPower : Nat := 308

def tenTo (k : Nat) : Binary64 :=
  (nearest? false (Nat.pow 10 k) 1).getD (infinity false)

/-- A number divided by a power of ten, at most by the last one at once. -/
def overTenTo (d : Binary64) (k : Nat) : Binary64 :=
  if k ≤ lastPower then d.dividedBy (tenTo k)
  else if d = zero false then d
  else (d.dividedBy (tenTo lastPower)).overTenTo (k - lastPower)
termination_by k
decreasing_by
  have last : 0 < lastPower := by decide
  omega

def timesTenTo? (d : Binary64) (k : Nat) : Option Binary64 :=
  if k ≤ lastPower then d.times? (tenTo k) else if d = zero false then some d else none

/-- A number within sixty-four bits, scaled by a power of ten; `none` if it gets too large. -/
def scaled? (negative : Bool) (n : Nat) (e : Int) : Option Binary64 :=
  let d := (nearest? false n 1).getD (infinity false)
  (if 0 ≤ e then d.timesTenTo? e.toNat else some (d.overTenTo (-e).toNat)).map fun d =>
    ofMagnitude negative d.bits.toNat

end Binary64
end Casebook.Decimal
