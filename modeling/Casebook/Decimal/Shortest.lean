import Casebook.Decimal.Binary64
import Casebook.Decimal.Digits

/-!
# Shortest decimals

The fewest decimal digits that still read back as a given double precision number, and among those
the ones nearest to it. The numbers that round to `significand * 2 ^ exponent` form an interval around
it, whose ends belong to it when the significand is even; for one to seventeen digits the two
neighbours on that decimal grid are tried in exact arithmetic, and the first grid with a hit wins.
-/

namespace Casebook.Decimal

/-- A positive decimal `d₁.d₂d₃… * 10 ^ exponent`. -/
structure Scientific where
  /-- The digits, the first of them not zero. -/
  digits : List Char
  /-- The power of ten of the first digit. -/
  exponent : Int
  deriving DecidableEq, Repr

structure Ratio where
  num : Nat
  den : Nat

namespace Ratio

def ofBinary (n : Nat) (e : Int) : Ratio :=
  ⟨n <<< e.toNat, 1 <<< (-e).toNat⟩

def ofDecimal (n : Nat) (e : Int) : Ratio :=
  ⟨n * Nat.pow 10 e.toNat, Nat.pow 10 (-e).toNat⟩

def lt (a b : Ratio) : Bool :=
  a.num * b.den < b.num * a.den

def le (a b : Ratio) : Bool :=
  a.num * b.den ≤ b.num * a.den

def distance (a b : Ratio) : Ratio :=
  ⟨(a.num * b.den - b.num * a.den) + (b.num * a.den - a.num * b.den), a.den * b.den⟩

def magnitude (a : Ratio) : Int :=
  if a.den ≤ a.num then ((digits (a.num / a.den)).length : Int) - 1
  else
    let k := (digits (a.den / a.num)).length
    if a.den ≤ a.num * Nat.pow 10 (k - 1) then -((k : Int) - 1) else -(k : Int)

/-- The largest multiple of `10 ^ e` that is not above the ratio, in that unit. -/
def floorAt (a : Ratio) (e : Int) : Nat :=
  (a.num * Nat.pow 10 (-e).toNat) / (a.den * Nat.pow 10 e.toNat)

end Ratio

namespace Binary64

/-- The lower end of the interval that rounds to a positive finite number. -/
def lowerEnd (d : Binary64) : Ratio :=
  if d.fractionField = 0 && 1 < d.exponentField then
    Ratio.ofBinary (4 * d.significand - 1) (d.exponent - 2)
  else Ratio.ofBinary (2 * d.significand - 1) (d.exponent - 1)

/-- The upper end of the interval that rounds to a positive finite number. -/
def upperEnd (d : Binary64) : Ratio :=
  Ratio.ofBinary (2 * d.significand + 1) (d.exponent - 1)

def admits (d : Binary64) (r : Ratio) : Bool :=
  if d.significand % 2 = 0 then d.lowerEnd.le r && r.le d.upperEnd
  else d.lowerEnd.lt r && r.lt d.upperEnd

/-- The multiple of `10 ^ unit` that rounds to the number and is nearest to it, in that unit. -/
def onGrid? (d : Binary64) (unit : Int) : Option Nat :=
  let exact := Ratio.ofBinary d.significand d.exponent
  let low := exact.floorAt unit
  let lowHit := low ≠ 0 && d.admits (Ratio.ofDecimal low unit)
  let highHit := d.admits (Ratio.ofDecimal (low + 1) unit)
  if lowHit && highHit then
    let below := exact.distance (Ratio.ofDecimal low unit)
    let above := exact.distance (Ratio.ofDecimal (low + 1) unit)
    if below.lt above || (below.le above && low % 2 = 0) then some low else some (low + 1)
  else if lowHit then some low
  else if highHit then some (low + 1)
  else none

/-- The first grid, from `count` digits on, that has a hit. -/
def searchGrids (d : Binary64) (top : Int) : Nat → Nat → Option (Nat × Int)
  | 0, _ => none
  | tries + 1, count =>
    let unit := top - count + 1
    match d.onGrid? unit with
    | some n => some (n, unit)
    | none => searchGrids d top tries (count + 1)

def shortest (d : Binary64) : Scientific :=
  let top := (Ratio.ofBinary d.significand d.exponent).magnitude
  match d.searchGrids top 17 1 with
  | none => ⟨['0'], 0⟩
  | some (n, unit) =>
    let ds := Decimal.digits n
    let kept := (ds.reverse.dropWhile (· = '0')).reverse
    ⟨kept, unit + ds.length - 1⟩

end Binary64
end Casebook.Decimal
