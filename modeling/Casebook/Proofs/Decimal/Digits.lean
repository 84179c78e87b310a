import Casebook.Decimal.Digits

/-!
# Decimal digits read back

The digits of a number are digits, have the number as their value and are as few as the number allows;
zeros in front change nothing but the width.
-/

namespace Casebook.Decimal

theorem digitValue?_digitChar {n : Nat} (h : n < 10) : digitValue? n.digitChar = some n := by
  have all : ∀ m : Fin 10, digitValue? (Nat.digitChar m.val) = some m.val := by decide
  exact all ⟨n, h⟩

theorem digitValue?_of_isDigit {c : Char} (h : c.isDigit = true) :
    digitValue? c = some (c.toNat - '0'.toNat) := by
  have hc := Char.isDigit_iff_toNat.1 h
  simp only [digitValue?]
  rw [if_pos]
  simpa using hc

theorem isDigit_of_core {c : Char} (h : c.isDigit = true) : isDigit c = true := by
  rw [isDigit, digitValue?_of_isDigit h]
  rfl

theorem isDigit_of_mem_digits {n : Nat} {c : Char} (h : c ∈ digits n) : isDigit c = true :=
  isDigit_of_core (Nat.isDigit_of_mem_toDigits (by decide) (by decide) h)

theorem digits_ne_nil (n : Nat) : digits n ≠ [] := Nat.toDigits_ne_nil

theorem value_concat (ds : List Char) (c : Char) :
    value (ds ++ [c]) = value ds * 10 + (digitValue? c).getD 0 := by
  simp [value]

theorem value_digits (n : Nat) : value (digits n) = n := by
  induction n using Nat.strongRecOn with
  | ind n ih =>
    by_cases h : n < 10
    · rw [digits, Nat.toDigits_of_lt_base h]
      simp [value, digitValue?_digitChar h]
    · have hlast : n % 10 < 10 := Nat.mod_lt _ (by decide)
      have hrec := ih (n / 10) (by omega)
      rw [digits] at hrec ⊢
      rw [Nat.toDigits_of_base_le (by decide) (by omega), value_concat, hrec,
        digitValue?_digitChar hlast]
      simp only [Option.getD_some]
      omega

theorem value_cons_zero (ds : List Char) : value ('0' :: ds) = value ds := rfl

theorem value_zeros_append (k : Nat) (ds : List Char) :
    value (List.replicate k '0' ++ ds) = value ds := by
  induction k with
  | zero => rfl
  | succ k ih => rw [List.replicate_succ, List.cons_append, value_cons_zero, ih]

theorem value_padded (width n : Nat) : value (padded width n) = n := by
  rw [padded, value_zeros_append, value_digits]

theorem isDigit_of_mem_padded {width n : Nat} {c : Char} (h : c ∈ padded width n) :
    isDigit c = true := by
  rcases List.mem_append.1 h with h | h
  · rw [List.eq_of_mem_replicate h]
    decide
  · exact isDigit_of_mem_digits h

theorem digits_length_le {width n : Nat} (hw : 0 < width) (h : n < Nat.pow 10 width) :
    (digits n).length ≤ width :=
  (Nat.length_toDigits_le_iff (by decide) hw).2 h

theorem padded_length {width n : Nat} (hw : 0 < width) (h : n < Nat.pow 10 width) :
    (padded width n).length = width := by
  have hd := digits_length_le hw h
  simp only [padded, List.length_append, List.length_replicate]
  omega

theorem width_le_padded_length (width n : Nat) : width ≤ (padded width n).length := by
  simp only [padded, List.length_append, List.length_replicate]
  omega

end Casebook.Decimal
