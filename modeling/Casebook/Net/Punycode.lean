import Casebook.Decimal.Digits

/-!
# Foreign letters in ASCII

A text of any characters written in ASCII: its ASCII characters, a dash, and one number for each other
character that says which it is and where it goes. Small numbers have few digits, and what counts as
small follows the numbers written so far. Main statement: each digit reads back.
-/

namespace Casebook.Net.Punycode

def base : Nat := 36

/-- A digit: the letters come before the decimal digits. -/
def digit (n : Nat) : Char :=
  if n < 26 then Char.ofNat ('a'.toNat + n) else Char.ofNat ('0'.toNat + (n - 26))

def digitValue? (c : Char) : Option Nat :=
  if 'a' ≤ c && c ≤ 'z' then some (c.toNat - 'a'.toNat)
  else if 'A' ≤ c && c ≤ 'Z' then some (c.toNat - 'A'.toNat)
  else if '0' ≤ c && c ≤ '9' then some (c.toNat - '0'.toNat + 26)
  else none

/-- The digits below the threshold end a number; `place` counts in steps of the base. -/
def threshold (bias place : Nat) : Nat := max 1 (min 26 (place - bias))

theorem threshold_bounds (bias place : Nat) : 1 ≤ threshold bias place ∧ threshold bias place ≤ 26 := by
  simp only [threshold]
  omega

def digits (bias place n : Nat) : List Char :=
  let t := threshold bias place
  if n < t then [digit n]
  else digit (t + (n - t) % (base - t)) :: digits bias (place + base) ((n - t) / (base - t))
termination_by n
decreasing_by
  have h := threshold_bounds bias place
  exact Nat.lt_of_le_of_lt (Nat.div_le_self _ _) (by omega)

/-- The number that no weight of a digit reaches. -/
def weightEnd : Nat := 1 <<< 32

/-- Reads a number from a place on; a digit there counts `weight`, and `sum` has been read. -/
def number? (bias : Nat) : Nat → Nat → Nat → List Char → Option (Nat × List Char)
  | _, _, _, [] => none
  | place, weight, sum, c :: r => do
    let d ← digitValue? c
    let t := threshold bias place
    let sum := sum + d * weight
    if d < t then some (sum, r)
    else if weightEnd ≤ weight * (base - t) then none
    else number? bias (place + base) (weight * (base - t)) sum r

theorem digitValue?_digit {n : Nat} (h : n < base) : digitValue? (digit n) = some n := by
  have all : ∀ m : Fin base, digitValue? (digit m) = some m.val := by decide
  exact all ⟨n, h⟩

/-- The bias after numbers that average `delta`, scaled to the place where they end. -/
def biasOf (place delta : Nat) : Nat :=
  if 455 < delta then biasOf (place + base) (delta / 35)
  else place + base * delta / (delta + 38)
termination_by delta
decreasing_by exact Nat.div_lt_self (by omega) (by omega)

/-- The bias after a number; `count` characters are placed, and the first number weighs little. -/
def nextBias (number count : Nat) (isFirst : Bool) : Nat :=
  let delta := if isFirst then number / 700 else number / 2
  biasOf 0 (delta + delta / count)

def firstBias : Nat := 72

def firstForeign : Nat := 128

/-- A text on the way to its written form. -/
structure Writing where
  /-- The digits so far. -/
  written : List Char
  /-- What has been passed since the last number. -/
  passed : Nat
  bias : Nat
  /-- The characters placed so far. -/
  count : Nat

/-- Passes a character of the text when those with code point `n` are placed. -/
def Writing.pass (ascii n : Nat) (w : Writing) (c : Char) : Writing :=
  if c.toNat < n then { w with passed := w.passed + 1 }
  else if c.toNat = n then
    ⟨w.written ++ digits w.bias base w.passed, 0,
      nextBias w.passed (w.count + 1) (w.count = ascii), w.count + 1⟩
  else w

def Writing.placeAll (text : List Char) (ascii : Nat) : List Nat → Nat → Writing → Writing
  | [], _, w => w
  | m :: ms, n, w =>
    let w := { w with passed := w.passed + (m - n) * (w.count + 1) }
    let w := text.foldl (Writing.pass ascii m) w
    placeAll text ascii ms (m + 1) { w with passed := w.passed + 1 }

def isAscii (c : Char) : Bool := c.toNat < firstForeign

def encode (text : List Char) : List Char :=
  let ascii := text.filter isAscii
  let foreign := (((text.filter fun c => !isAscii c).map Char.toNat).mergeSort).eraseDups
  let w := Writing.placeAll text ascii.length foreign firstForeign ⟨[], 0, firstBias, ascii.length⟩
  (if ascii.isEmpty then [] else ascii ++ ['-']) ++ w.written

/-- Places the characters that the numbers of a text stand for, at most `room`; `n` is the code point
and `start` the place that the next number counts from. -/
def place? : Nat → List Char → Nat → Nat → Nat → Bool → List Char → Option (List Char)
  | _, placed, _, _, _, _, [] => some placed
  | 0, _, _, _, _, _, _ :: _ => none
  | room + 1, placed, n, start, bias, isFirst, s => do
    let (sum, r) ← number? bias base 1 start s
    let count := placed.length + 1
    let n := n + sum / count
    let here := sum % count
    if n.isValidChar then
      place? room (placed.insertIdx here (Char.ofNat n)) n (here + 1)
        (nextBias (sum - start) count isFirst) false r
    else none

def decode? (s : List Char) : Option (List Char) :=
  let tail := (s.reverse.takeWhile (· ≠ '-')).reverse
  let ascii := s.take (s.length - tail.length - 1)
  if !ascii.all isAscii then none
  else
    let foreign := if ascii.isEmpty then s else tail
    place? foreign.length ascii firstForeign 0 firstBias true foreign

end Casebook.Net.Punycode
