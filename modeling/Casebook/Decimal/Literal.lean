import Casebook.Decimal.Binary64
import Casebook.Decimal.Digits

/-!
# Written double precision numbers

Reading a number from a text: an optional sign, digits with an optional point among, before or after
them, and an optional power of ten; or one of the words for infinity and for no number, in any case.
-/

namespace Casebook.Decimal

def splitDigits (s : List Char) : List Char × List Char :=
  (s.takeWhile isDigit, s.dropWhile isDigit)

/-- An exponent mark with its signed digits; no mark is the exponent zero. -/
def readExponent? : List Char → Option Int
  | [] => some 0
  | c :: r =>
    if c ≠ 'e' && c ≠ 'E' then none
    else
      let (negative, ds) : Bool × List Char := match r with
        | '-' :: r => (true, r)
        | '+' :: r => (false, r)
        | r => (false, r)
      if ds.isEmpty || !ds.all isDigit then none
      else some (if negative then -(value ds : Int) else value ds)

def readDecimal? (negative : Bool) (s : List Char) : Option Binary64 :=
  let (whole, r) := splitDigits s
  let (part, r) : List Char × List Char := match r with
    | '.' :: r => splitDigits r
    | r => ([], r)
  if whole.isEmpty && part.isEmpty then none
  else (readExponent? r).map fun e =>
    (Binary64.ofDecimal? negative (value (whole ++ part)) (e - part.length)).getD
      (Binary64.infinity negative)

def readBinary64? (s : List Char) : Option Binary64 :=
  let (negative, r) : Bool × List Char := match s with
    | '-' :: r => (true, r)
    | '+' :: r => (false, r)
    | r => (false, r)
  let word := String.ofList (r.map Char.toLower)
  if word = "inf" || word = "infinity" then some (Binary64.infinity negative)
  else if word = "nan" then some Binary64.notANumber
  else readDecimal? negative r

end Casebook.Decimal
