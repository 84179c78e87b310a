import Casebook.Text.Hex
import Casebook.Text.Utf8

/-!
# Percent signs

In an address a byte may be written as a percent sign and two hexadecimal digits. A percent sign that is
not followed by two such digits stands for itself. Main statement: bytes without a percent sign stand
for themselves.
-/

namespace Casebook.Text

def percent : UInt8 := 37

def hexDigit? (b : UInt8) : Option Nat :=
  hexValue? (Char.ofNat b.toNat)

def hexPair? (high low : UInt8) : Option UInt8 := do
  let h ← hexDigit? high
  let l ← hexDigit? low
  some (h * 16 + l).toUInt8

def percentDecode : Bytes → Bytes
  | b :: high :: low :: r =>
    match if b = percent then hexPair? high low else none with
    | some v => v :: percentDecode r
    | none => b :: percentDecode (high :: low :: r)
  | b :: r => b :: percentDecode r
  | [] => []

def percentByte (b : UInt8) : List Char :=
  let digit (n : Nat) := (Nat.digitChar n).toUpper
  ['%', digit (b.toNat / 16), digit (b.toNat % 16)]

/-- A text in which some characters, controls, and all characters beyond ASCII are written with percent
signs. -/
def percentEncode (isSpecial : Char → Bool) (s : List Char) : List Char :=
  s.flatMap fun c =>
    if c.toNat < 32 || 126 < c.toNat || isSpecial c then
      (Bytes.ofText (String.singleton c)).flatMap percentByte
    else [c]

theorem percentDecode_of_not_mem {b : Bytes} (h : percent ∉ b) : percentDecode b = b := by
  fun_induction percentDecode b with
  | case1 b high low r v hv =>
    by_cases hb : b = percent
    · exact absurd (hb ▸ List.mem_cons_self) h
    · simp [hb] at hv
  | case2 b high low r _ ih => rw [ih fun hm => h (List.mem_cons_of_mem _ hm)]
  | case3 b r _ ih => rw [ih fun hm => h (List.mem_cons_of_mem _ hm)]
  | case4 => rfl

end Casebook.Text
