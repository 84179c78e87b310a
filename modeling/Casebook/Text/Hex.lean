import Casebook.Decimal.Digits

/-!
# Hexadecimal digits

Numbers in sixteen digits, of which the letters may be small or capital.
-/

namespace Casebook.Text

def hexValue? (c : Char) : Option Nat :=
  match Decimal.digitValue? c with
  | some n => some n
  | none =>
    if 'a' ≤ c && c ≤ 'f' then some (c.toNat - 'a'.toNat + 10)
    else if 'A' ≤ c && c ≤ 'F' then some (c.toNat - 'A'.toNat + 10)
    else none

def isHexDigit (c : Char) : Bool := (hexValue? c).isSome

def hexNumber (s : List Char) : Nat :=
  s.foldl (fun n c => n * 16 + (hexValue? c).getD 0) 0

end Casebook.Text
