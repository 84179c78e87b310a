import Casebook.Json.Printer
import Casebook.Json.Reader

/-!
# Texts between quotes read back

A text is written as its own bytes, with an escape for the characters that need one. Reading takes one
escape, or the bytes of one other character, at a time; so the bytes that are taken are those of the
text, whatever it holds.
-/

namespace Casebook

/-! ### Bytes of characters -/

def Bytes.ofChars (cs : List Char) : Bytes := cs.flatMap String.utf8EncodeChar

namespace Bytes

theorem ofText_ofList (cs : List Char) : ofText (String.ofList cs) = ofChars cs := by
  simp [ofText, ofChars, List.utf8Encode]

theorem ofChars_toList (s : String) : ofChars s.toList = ofText s := by
  rw [← ofText_ofList, String.ofList_toList]

theorem ofChars_append (a b : List Char) : ofChars (a ++ b) = ofChars a ++ ofChars b :=
  List.flatMap_append

theorem ofChars_cons (c : Char) (cs : List Char) :
    ofChars (c :: cs) = String.utf8EncodeChar c ++ ofChars cs := rfl

end Bytes

namespace Json

theorem encode_of_lt {c : Char} (h : c.toNat < 0x80) : String.utf8EncodeChar c = [byte c] := by
  have hv : c.val.toNat ≤ 0x7f := by
    have : c.val.toNat = c.toNat := rfl
    omega
  simp only [String.utf8EncodeChar, if_pos hv]
  rfl

theorem le_of_mem_encode {c : Char} (h : 0x80 ≤ c.toNat) :
    ∀ b ∈ String.utf8EncodeChar c, 0x80 ≤ b.toNat := by
  have hv : 0x80 ≤ c.val.toNat := h
  intro b hb
  simp only [String.utf8EncodeChar] at hb
  split at hb
  · omega
  · split at hb
    · simp only [List.mem_cons, List.not_mem_nil, or_false] at hb
      rcases hb with rfl | rfl <;> rw [UInt8.toNat_ofNat'] <;> omega
    · split at hb
      · simp only [List.mem_cons, List.not_mem_nil, or_false] at hb
        rcases hb with rfl | rfl | rfl <;> rw [UInt8.toNat_ofNat'] <;> omega
      · simp only [List.mem_cons, List.not_mem_nil, or_false] at hb
        rcases hb with rfl | rfl | rfl | rfl <;> rw [UInt8.toNat_ofNat'] <;> omega

theorem byte_toNat {c : Char} (h : c.toNat < 0x100) : (byte c).toNat = c.toNat := by
  rw [byte, Nat.toUInt8, UInt8.toNat_ofNat']
  omega

theorem ofNat_byte {c : Char} (h : c.toNat < 0x100) : Char.ofNat (byte c).toNat = c := by
  rw [byte_toNat h, Char.ofNat_toNat]

theorem ofChars_cons_of_lt {c : Char} (cs : List Char) (h : c.toNat < 0x80) :
    Bytes.ofChars (c :: cs) = byte c :: Bytes.ofChars cs := by
  rw [Bytes.ofChars_cons, encode_of_lt h]
  rfl

/-! ### Pieces of a text -/

def IsPlain (b : UInt8) : Prop := b ≠ byte '"' ∧ b ≠ byte '\\' ∧ ¬ b < 0x20

theorem takeText_plain (rigor : Rigor) {bs : Bytes} (h : ∀ b ∈ bs, IsPlain b) (fuel : Nat)
    (acc r : Bytes) :
    takeText rigor (fuel + bs.length) (some acc) (bs ++ r) =
      takeText rigor fuel (some (bs.reverse ++ acc)) r := by
  induction bs generalizing acc with
  | nil => rfl
  | cons b bs ih =>
    obtain ⟨hquote, hslash, hcontrol⟩ := h b List.mem_cons_self
    have rest := ih (fun x hx => h x (List.mem_cons_of_mem _ hx)) (b :: acc)
    rw [List.length_cons, ← Nat.add_assoc, List.cons_append, takeText, if_neg hquote,
      if_neg hslash, if_neg hcontrol, Option.map_some, rest]
    simp

theorem isPlain_encode {c : Char} (hquote : c ≠ '"') (hslash : c ≠ '\\') (hc : ¬ c.toNat < 0x20) :
    ∀ b ∈ String.utf8EncodeChar c, IsPlain b := by
  have quote : (byte '"').toNat = 0x22 := rfl
  have slash : (byte '\\').toNat = 0x5c := rfl
  intro b hb
  by_cases h : c.toNat < 0x80
  · rw [encode_of_lt h, List.mem_singleton] at hb
    subst hb
    have hval := byte_toNat (c := c) (by omega)
    refine ⟨fun he => hquote ?_, fun he => hslash ?_, fun hlt => hc ?_⟩
    · exact Char.toNat_inj.1 (hval.symm.trans (congrArg UInt8.toNat he))
    · exact Char.toNat_inj.1 (hval.symm.trans (congrArg UInt8.toNat he))
    · rw [UInt8.lt_iff_toNat_lt, hval] at hlt
      exact hlt
  · have hb := le_of_mem_encode (Nat.not_lt.1 h) b hb
    refine ⟨fun he => ?_, fun he => ?_, fun hlt => ?_⟩
    · rw [he, quote] at hb
      omega
    · rw [he, slash] at hb
      omega
    · rw [UInt8.lt_iff_toNat_lt] at hlt
      have : (0x20 : UInt8).toNat = 0x20 := rfl
      omega

/-- The escape of a character, and what reading it gives, whatever stands before and behind it. -/
def ReadsBack (rigor : Rigor) (c : Char) : Prop :=
  ∃ k, k ≤ (Bytes.ofChars (escapeChar c)).length ∧ ∀ fuel acc r,
    takeText rigor (fuel + k) (some acc) (Bytes.ofChars (escapeChar c) ++ r) =
      takeText rigor fuel (some ((String.utf8EncodeChar c).reverse ++ acc)) r

theorem readsBack_plain (rigor : Rigor) {c : Char} (h : escapeChar c = [c]) (hquote : c ≠ '"')
    (hslash : c ≠ '\\') (hc : ¬ c.toNat < 0x20) : ReadsBack rigor c := by
  have hbytes : Bytes.ofChars [c] = String.utf8EncodeChar c := by simp [Bytes.ofChars]
  rw [ReadsBack, h, hbytes]
  exact ⟨_, Nat.le_refl _, takeText_plain rigor (isPlain_encode hquote hslash hc)⟩

theorem takeText_escape (rigor : Rigor) {esc piece : Bytes}
    (h : ∀ r, takeEscape rigor (esc ++ r) = .ok (some piece, r)) (fuel : Nat) (acc r : Bytes) :
    takeText rigor (fuel + 1) (some acc) (byte '\\' :: esc ++ r) =
      takeText rigor fuel (some (piece.reverse ++ acc)) r := by
  have hquote : ¬ byte '\\' = byte '"' := by decide
  rw [List.cons_append, takeText, if_neg hquote, if_pos rfl, h]
  rfl

theorem readsBack_escape (rigor : Rigor) {c : Char} (esc : List Char)
    (hc : Bytes.ofChars (escapeChar c) = byte '\\' :: Bytes.ofChars esc)
    (h : ∀ r, takeEscape rigor (Bytes.ofChars esc ++ r) = .ok (some (String.utf8EncodeChar c), r)) :
    ReadsBack rigor c := by
  rw [ReadsBack, hc]
  exact ⟨1, by simp, takeText_escape rigor h⟩

theorem hexValue?_hexDigit (n : Nat) : hexValue? (byte (hexDigit n)) = some (n % 16) := by
  have all : ∀ m : Fin 16, hexValue? (byte (Nat.digitChar m.val)) = some m.val := by decide
  exact all ⟨n % 16, Nat.mod_lt _ (by decide)⟩

theorem hexDigit_lt (n : Nat) : (hexDigit n).toNat < 0x80 := by
  have all : ∀ m : Fin 16, (Nat.digitChar m.val).toNat < 0x80 := by decide
  exact all ⟨n % 16, Nat.mod_lt _ (by decide)⟩

theorem takeEscape_code (rigor : Rigor) {c : Char} (h : c.toNat < 0x20) (r : Bytes) :
    takeEscape rigor (Bytes.ofChars ['u', '0', '0', hexDigit (c.toNat / 16), hexDigit c.toNat] ++ r) =
      .ok (some (String.utf8EncodeChar c), r) := by
  have bytes : Bytes.ofChars ['u', '0', '0', hexDigit (c.toNat / 16), hexDigit c.toNat] =
      [byte 'u', byte '0', byte '0', byte (hexDigit (c.toNat / 16)), byte (hexDigit c.toNat)] := by
    rw [ofChars_cons_of_lt _ (by decide), ofChars_cons_of_lt _ (by decide),
      ofChars_cons_of_lt _ (by decide), ofChars_cons_of_lt _ (hexDigit_lt _),
      ofChars_cons_of_lt _ (hexDigit_lt _)]
    rfl
  have zero : hexValue? (byte '0') = some 0 := by decide
  have hex : takeHex ([byte '0', byte '0', byte (hexDigit (c.toNat / 16)),
      byte (hexDigit c.toNat)] ++ r) = .ok (c.toNat, r) := by
    simp only [List.cons_append, List.nil_append, takeHex, zero, hexValue?_hexDigit]
    congr 2
    omega
  have high : isHighHalf c.toNat = false := by
    simp only [isHighHalf, Bool.and_eq_false_iff, decide_eq_false_iff_not]
    omega
  have low : isLowHalf c.toNat = false := by
    simp only [isLowHalf, Bool.and_eq_false_iff, decide_eq_false_iff_not]
    omega
  have code : takeEscape rigor (byte 'u' :: ([byte '0', byte '0', byte (hexDigit (c.toNat / 16)),
      byte (hexDigit c.toNat)] ++ r)) = takeCode rigor ([byte '0', byte '0',
      byte (hexDigit (c.toNat / 16)), byte (hexDigit c.toNat)] ++ r) := rfl
  rw [bytes, List.cons_append, code, takeCode, hex]
  simp only [bind, Except.bind, high, low, Bool.false_eq_true, if_false, bytesOfCode,
    Char.ofNat_toNat]

theorem readsBack (rigor : Rigor) (c : Char) : ReadsBack rigor c := by
  have eight : c.toNat = 8 → c = Char.ofNat 8 := fun h => by rw [← h, Char.ofNat_toNat]
  have twelve : c.toNat = 12 → c = Char.ofNat 12 := fun h => by rw [← h, Char.ofNat_toNat]
  by_cases hquote : c = '"'
  · subst hquote
    exact readsBack_escape rigor ['"'] rfl fun r => rfl
  by_cases hslash : c = '\\'
  · subst hslash
    exact readsBack_escape rigor ['\\'] rfl fun r => rfl
  by_cases hline : c = '\n'
  · subst hline
    exact readsBack_escape rigor ['n'] rfl fun r => rfl
  by_cases hreturn : c = '\r'
  · subst hreturn
    exact readsBack_escape rigor ['r'] rfl fun r => rfl
  by_cases htab : c = '\t'
  · subst htab
    exact readsBack_escape rigor ['t'] rfl fun r => rfl
  by_cases hback : c.toNat = 8
  · rw [eight hback]
    exact readsBack_escape rigor ['b'] rfl fun r => rfl
  by_cases hform : c.toNat = 12
  · rw [twelve hform]
    exact readsBack_escape rigor ['f'] rfl fun r => rfl
  by_cases hcontrol : c.toNat < 0x20
  · have hesc : escapeChar c =
        ['\\', 'u', '0', '0', hexDigit (c.toNat / 16), hexDigit c.toNat] := by
      simp only [escapeChar, hquote, hslash, hline, hreturn, htab, hback, hform, hcontrol, if_false,
        if_true]
    refine readsBack_escape rigor _ ?_ (takeEscape_code rigor hcontrol)
    rw [hesc, ofChars_cons_of_lt _ (by decide)]
  · refine readsBack_plain rigor ?_ hquote hslash hcontrol
    simp only [escapeChar, hquote, hslash, hline, hreturn, htab, hback, hform, hcontrol, if_false]

/-! ### Texts -/

theorem takeText_flatMap (rigor : Rigor) (cs : List Char) {fuel : Nat} (acc r : Bytes)
    (h : (Bytes.ofChars (cs.flatMap escapeChar)).length < fuel) :
    takeText rigor fuel (some acc) (Bytes.ofChars (cs.flatMap escapeChar) ++ byte '"' :: r) =
      .ok (some (acc.reverse ++ Bytes.ofChars cs), r) := by
  induction cs generalizing fuel acc with
  | nil =>
    cases fuel with
    | zero => omega
    | succ fuel =>
      have nothing : Bytes.ofChars [] = [] := rfl
      rw [List.flatMap_nil, nothing, List.nil_append, takeText, if_pos rfl]
      simp
  | cons c cs ih =>
    obtain ⟨k, hk, step⟩ := readsBack rigor c
    rw [List.flatMap_cons, Bytes.ofChars_append] at h ⊢
    rw [List.length_append] at h
    obtain ⟨rest, hrest⟩ : ∃ rest, fuel = rest + k := ⟨fuel - k, by omega⟩
    rw [hrest, List.append_assoc, step, ih _ (by omega)]
    simp [Bytes.ofChars_cons]

theorem readText_printed (rigor : Rigor) (s : String) (fuel : Nat) (r : Bytes)
    (h : (Bytes.ofChars (printText s)).length ≤ fuel) :
    readText rigor fuel
        (Bytes.ofChars (s.toList.flatMap escapeChar) ++ byte '"' :: r) = .ok (some s, r) := by
  have hlen : (Bytes.ofChars (s.toList.flatMap escapeChar)).length < fuel := by
    rw [printText, List.cons_append, ofChars_cons_of_lt _ (by decide), List.length_cons,
      Bytes.ofChars_append, List.length_append] at h
    omega
  rw [readText, takeText_flatMap rigor s.toList [] r hlen]
  simp [bind, Except.bind, Bytes.ofChars_toList]

end Json
end Casebook
