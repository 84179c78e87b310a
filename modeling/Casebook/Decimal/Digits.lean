/-!
# Decimal digits

Natural numbers as decimal digits, and the bounded reading of a setting: digits after an optional plus
sign, refused at the first character that is no digit or at which the limit is passed.
-/

namespace Casebook.Decimal

def digits (n : Nat) : List Char :=
  Nat.toDigits 10 n

/-- The digits of a number, with zeros in front up to a least width. -/
def padded (width n : Nat) : List Char :=
  List.replicate (width - (digits n).length) '0' ++ digits n

def natText (n : Nat) : String :=
  String.ofList (digits n)

def intText (i : Int) : String :=
  if i < 0 then "-" ++ natText i.natAbs else natText i.natAbs

def digitValue? (c : Char) : Option Nat :=
  if '0'.toNat ≤ c.toNat && c.toNat ≤ '9'.toNat then some (c.toNat - '0'.toNat) else none

def isDigit (c : Char) : Bool :=
  (digitValue? c).isSome

/-- The number written by digits; other characters count as zero. -/
def value (ds : List Char) : Nat :=
  ds.foldl (fun n c => n * 10 + (digitValue? c).getD 0) 0

inductive NumberFault where
  | empty
  | invalidDigit
  | tooLarge
  deriving DecidableEq, Repr

def NumberFault.message : NumberFault → String
  | .empty => "cannot parse integer from empty string"
  | .invalidDigit => "invalid digit found in string"
  | .tooLarge => "number too large to fit in target type"

/-- Reads digits on top of `n`, never passing `limit`. -/
def readOnto (limit : Nat) : Nat → List Char → Except NumberFault Nat
  | n, [] => .ok n
  | n, c :: r =>
    match digitValue? c with
    | none => .error .invalidDigit
    | some d => if n * 10 + d ≤ limit then readOnto limit (n * 10 + d) r else .error .tooLarge

def read (limit : Nat) : List Char → Except NumberFault Nat
  | [] => .error .empty
  | ['+'] => .error .invalidDigit
  | '+' :: r => readOnto limit 0 r
  | s => readOnto limit 0 s

def max16 : Nat := 1 <<< 16 - 1

def max64 : Nat := 1 <<< 64 - 1

end Casebook.Decimal
