import Casebook.Decimal.Shortest

/-!
# Notations of double precision numbers

How shortest digits are set out: with a point among or around them, or with a power of ten. A notation
is a record of the choices, so that each output format names its own.
-/

namespace Casebook.Decimal

structure Layout where
  /-- The least power of ten of the first digit that is written without an exponent. -/
  leastPlain : Option Int
  /-- The greatest power of ten of the first digit that is written without an exponent. -/
  greatestPlain : Option Int
  /-- Whether a whole number keeps a point and a zero. -/
  keepsPoint : Bool
  /-- Whether a positive exponent has a plus sign. -/
  plusSign : Bool

namespace Layout

def isPlain (l : Layout) (e : Int) : Bool :=
  (l.leastPlain.all fun low => low ≤ e) && (l.greatestPlain.all fun high => e ≤ high)

def plain (l : Layout) (s : Scientific) : List Char :=
  if s.exponent < 0 then
    ['0', '.'] ++ List.replicate (-s.exponent - 1).toNat '0' ++ s.digits
  else
    let whole := s.exponent.toNat + 1
    if s.digits.length ≤ whole then
      s.digits ++ List.replicate (whole - s.digits.length) '0' ++
        if l.keepsPoint then ['.', '0'] else []
    else s.digits.take whole ++ '.' :: s.digits.drop whole

def scientific (l : Layout) (s : Scientific) : List Char :=
  let mantissa := s.digits.take 1 ++ if 1 < s.digits.length then '.' :: s.digits.drop 1 else []
  let sign := if s.exponent < 0 then ['-'] else if l.plusSign then ['+'] else []
  mantissa ++ 'e' :: sign ++ digits s.exponent.natAbs

def render (l : Layout) (d : Binary64) : List Char :=
  if d.isNaN then ['N', 'a', 'N']
  else
    let body :=
      if !d.isFinite then ['i', 'n', 'f']
      else if d.significand = 0 then if l.keepsPoint then ['0', '.', '0'] else ['0']
      else
        let s := d.shortest
        if l.isPlain s.exponent then l.plain s else l.scientific s
    if d.isNegative then '-' :: body else body

/-- Numbers inside documents: plain from `0.00001` up to sixteen whole digits, the point kept. -/
def document : Layout := ⟨some (-5), some 15, true, true⟩

/-- Numbers on a metrics page: never an exponent, and no point in a whole number. -/
def page : Layout := ⟨none, none, false, false⟩

end Layout
end Casebook.Decimal
