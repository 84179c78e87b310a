import Casebook.Proofs.Decimal.Digits
import Casebook.Proofs.Json.Text

/-!
# Printed documents read back

A value whose numbers are whole and fit sixty-four bits is read back from its text, by the outline
reading at any depth and by the full reading as deep as it goes. The reader is led through the text
member by member, whatever follows the value; so one induction on the value carries the arrays and the
objects in it.
-/

namespace Casebook.Json

/-! ### Whole numbers -/

/-- What follows a number does not go on with it. -/
def EndsNumber (r : Bytes) : Prop :=
  ∀ b ∈ r.head?, isDigitByte b = false ∧ b ≠ byte '.' ∧ b ≠ byte 'e' ∧ b ≠ byte 'E'

theorem endsNumber_nil : EndsNumber [] := by
  intro b hb
  cases hb

theorem endsNumber_cons {c : Char} (r : Bytes) (h : isDigitByte (byte c) = false ∧
    byte c ≠ byte '.' ∧ byte c ≠ byte 'e' ∧ byte c ≠ byte 'E') : EndsNumber (byte c :: r) := by
  intro b hb
  cases hb
  exact h

theorem toNat_bounds_of_isDigit {c : Char} (h : Decimal.isDigit c = true) :
    0x30 ≤ c.toNat ∧ c.toNat ≤ 0x39 := by
  have low : '0'.toNat = 0x30 := rfl
  have high : '9'.toNat = 0x39 := rfl
  simp only [Decimal.isDigit, Decimal.digitValue?] at h
  split at h
  next hc =>
    simp only [Bool.and_eq_true, decide_eq_true_eq] at hc
    omega
  next => cases h

theorem isDigitByte_byte {c : Char} (h : Decimal.isDigit c = true) : isDigitByte (byte c) = true := by
  obtain ⟨low, high⟩ := toNat_bounds_of_isDigit h
  have hb := byte_toNat (c := c) (by omega)
  simp only [isDigitByte, Bool.and_eq_true, decide_eq_true_eq, UInt8.le_iff_toNat_le, hb]
  exact ⟨low, high⟩

theorem ofChars_digits {ds : List Char} (h : ∀ c ∈ ds, Decimal.isDigit c = true) :
    Bytes.ofChars ds = ds.map byte := by
  induction ds with
  | nil => rfl
  | cons c ds ih =>
    have hc := toNat_bounds_of_isDigit (h c List.mem_cons_self)
    rw [ofChars_cons_of_lt _ (by omega), ih fun d hd => h d (List.mem_cons_of_mem _ hd)]
    rfl

theorem takeDigits_append {ds : List Char} {r : Bytes} (h : ∀ c ∈ ds, Decimal.isDigit c = true)
    (hr : EndsNumber r) : takeDigits (Bytes.ofChars ds ++ r) = (ds, r) := by
  have all : ∀ b ∈ ds.map byte, isDigitByte b = true := by
    intro b hb
    obtain ⟨c, hc, rfl⟩ := List.mem_map.1 hb
    exact isDigitByte_byte (h c hc)
  have back : ∀ c ∈ ds, Char.ofNat (byte c).toNat = c := by
    intro c hc
    have := toNat_bounds_of_isDigit (h c hc)
    exact ofNat_byte (by omega)
  have front : r.takeWhile isDigitByte = [] ∧ r.dropWhile isDigitByte = r := by
    cases r with
    | nil => exact ⟨rfl, rfl⟩
    | cons b r => simp [(hr b rfl).1]
  rw [takeDigits, ofChars_digits h, List.takeWhile_append_of_pos all,
    List.dropWhile_append_of_pos all, front.1, front.2, List.append_nil, List.map_map]
  congr 1
  conv => rhs; rw [← List.map_id ds]
  exact List.map_congr_left back

theorem digits_eq_cons {n : Nat} (h : 0 < n) : ∃ c ds, Decimal.digits n = c :: ds ∧ c ≠ '0' := by
  induction n using Nat.strongRecOn with
  | ind n ih =>
    by_cases hn : n < 10
    · refine ⟨n.digitChar, [], Nat.toDigits_of_lt_base hn, ?_⟩
      rw [ne_eq, Nat.digitChar_eq_zero]
      omega
    · obtain ⟨c, ds, hd, hc⟩ := ih (n / 10) (by omega) (by omega)
      refine ⟨c, ds ++ [(n % 10).digitChar], ?_, hc⟩
      rw [Decimal.digits] at hd ⊢
      rw [Nat.toDigits_of_base_le (by decide) (by omega), hd, List.cons_append]

theorem takeWhole_digits (n : Nat) {r : Bytes} (hr : EndsNumber r) :
    takeWhole (Bytes.ofChars (Decimal.digits n) ++ r) = .ok (Decimal.digits n, r) := by
  have all : ∀ c ∈ Decimal.digits n, Decimal.isDigit c = true := fun c =>
    Decimal.isDigit_of_mem_digits
  by_cases hn : n = 0
  · subst hn
    have zero : Bytes.ofChars (Decimal.digits 0) = [byte '0'] := by decide
    rw [zero, List.cons_append, List.nil_append, takeWhole.eq_def]
    simp only [if_true]
    cases r with
    | nil => rfl
    | cons b r =>
      simp only [(hr b rfl).1, Bool.false_eq_true, if_false]
      rfl
  · obtain ⟨c, ds, hd, hc⟩ := digits_eq_cons (Nat.pos_of_ne_zero hn)
    have taken := takeDigits_append all hr
    rw [hd] at all taken ⊢
    have hbounds := toNat_bounds_of_isDigit (all c List.mem_cons_self)
    have hne : byte c ≠ byte '0' := by
      intro he
      have h := congrArg UInt8.toNat he
      rw [byte_toNat (by omega), byte_toNat (by decide)] at h
      exact hc (Char.toNat_inj.1 h)
    have hdigit := isDigitByte_byte (all c List.mem_cons_self)
    rw [ofChars_cons_of_lt _ (by omega), List.cons_append] at taken ⊢
    rw [takeWhole.eq_def]
    simp only [hne, hdigit, if_false, if_true, taken]

theorem takePart_of_ends {r : Bytes} (h : EndsNumber r) : takePart r = .ok (none, r) := by
  cases r with
  | nil => rfl
  | cons b r => rw [takePart, if_neg (h b rfl).2.1]

theorem takeExponent_of_ends {r : Bytes} (h : EndsNumber r) : takeExponent r = .ok (none, r) := by
  cases r with
  | nil => rfl
  | cons b r =>
    rw [takeExponent]
    simp [(h b rfl).2.2.1, (h b rfl).2.2.2]

theorem number_digits (rigor : Rigor) (negative : Bool) {n : Nat} {v : Json} {r : Bytes}
    (hr : EndsNumber r) (hv : numberValue? negative (Decimal.digits n) none none = some v) :
    number rigor negative (Bytes.ofChars (Decimal.digits n) ++ r) = .ok (v, r) := by
  rw [number, takeWhole_digits n hr]
  simp only [bind, Except.bind, takePart_of_ends hr, takeExponent_of_ends hr, hv]

theorem numberValue?_nonneg {n : Nat} (h : n < 1 <<< 64) :
    numberValue? false (Decimal.digits n) none none = some (.int n) := by
  simp only [numberValue?, Decimal.value_digits, Option.isNone_none, Bool.not_false, Bool.true_and,
    h, decide_true, if_true]

theorem numberValue?_negative {n : Nat} (hpos : n ≠ 0) (h : n ≤ 1 <<< 63) :
    numberValue? true (Decimal.digits n) none none = some (.int (-n)) := by
  simp only [numberValue?, Decimal.value_digits, Option.isNone_none, Bool.not_true, Bool.and_false,
    Bool.false_and, Bool.false_eq_true, if_false, hpos, ne_eq, not_false_eq_true, h, decide_true,
    Bool.and_self, if_true]

/-! ### Values -/

mutual
/-- Whether every number is whole and within sixty-four bits, and no token is faulty. -/
def isExact : Json → Bool
  | .int n => -(1 <<< 63 : Nat) ≤ n && n < (1 <<< 64 : Nat)
  | .float _ => false
  | .array items => isExactItems items
  | .object ms => isExactMembers ms
  | .faulty => false
  | _ => true

def isExactItems : List Json → Bool
  | [] => true
  | v :: r => isExact v && isExactItems r

def isExactMembers : List (String × Json) → Bool
  | [] => true
  | (_, v) :: r => isExact v && isExactMembers r
end

theorem skip_byte {c : Char} (r : Bytes) (h : isSpace (byte c) = false) :
    skip (byte c :: r) = byte c :: r := by
  rw [skip, List.dropWhile_cons, h]
  rfl

theorem room_of_open {rigor : Rigor} {room : Nat} (h : rigor = .full → 0 < room) :
    (room = 0 && rigor = .full) = false := by
  simp only [Bool.and_eq_false_iff, decide_eq_false_iff_not]
  by_cases hr : rigor = .full
  · exact .inl (Nat.ne_of_gt (h hr))
  · exact .inr hr

theorem value_array {rigor : Rigor} {fuel room : Nat} {c : UInt8} {r r' r'' : Bytes}
    {vs : List Json} (ho : rigor = .full → 0 < room) (hs : skip r = c :: r') (hc : c ≠ byte ']')
    (hi : items rigor fuel (room - 1) (c :: r') = .ok (vs, r'')) :
    value rigor (fuel + 1) room (byte '[' :: r) = .ok (.array vs, r'') := by
  have room' := room_of_open ho
  rw [value, skip_byte _ (by decide)]
  simp +decide only [room', hs, hc, if_false, if_true, hi, bind, Except.bind]

theorem value_array_nil {rigor : Rigor} (fuel : Nat) {room : Nat} (r : Bytes)
    (ho : rigor = .full → 0 < room) :
    value rigor (fuel + 1) room (byte '[' :: byte ']' :: r) = .ok (.array [], r) := by
  have room' := room_of_open ho
  rw [value, skip_byte _ (by decide)]
  simp +decide only [room', skip_byte, if_false, if_true]

theorem value_object {rigor : Rigor} {fuel room : Nat} {r r' : Bytes}
    {ms : List (Option String × Json)} (ho : rigor = .full → 0 < room)
    (hi : members rigor fuel (room - 1) (byte '"' :: r) = .ok (ms, r')) :
    value rigor (fuel + 1) room (byte '\x7b' :: byte '"' :: r) = .ok (objectOf ms, r') := by
  have room' := room_of_open ho
  rw [value, skip_byte _ (by decide)]
  simp +decide only [room', skip_byte, if_false, if_true, hi, bind, Except.bind]

theorem value_object_nil {rigor : Rigor} (fuel : Nat) {room : Nat} (r : Bytes)
    (ho : rigor = .full → 0 < room) :
    value rigor (fuel + 1) room (byte '\x7b' :: byte '\x7d' :: r) = .ok (.object [], r) := by
  have room' := room_of_open ho
  rw [value, skip_byte _ (by decide)]
  simp +decide only [room', skip_byte, if_false, if_true]

theorem value_string {rigor : Rigor} {fuel : Nat} (room : Nat) {r r' : Bytes} {s : String}
    (h : readText rigor fuel r = .ok (some s, r')) :
    value rigor (fuel + 1) room (byte '"' :: r) = .ok (.string s, r') := by
  rw [value, skip_byte _ (by decide)]
  simp +decide only [if_false, if_true, h, bind, Except.bind, Option.map_some, Option.getD_some]

theorem value_minus (rigor : Rigor) (fuel room : Nat) (r : Bytes) :
    value rigor (fuel + 1) room (byte '-' :: r) = number rigor true r := by
  rw [value, skip_byte _ (by decide)]
  simp +decide only [if_false, if_true]

theorem starts_of_isDigit {c : Char} (h : Decimal.isDigit c = true) :
    isSpace (byte c) = false ∧ byte c ≠ byte 'n' ∧ byte c ≠ byte 't' ∧ byte c ≠ byte 'f' ∧
      byte c ≠ byte '-' ∧ byte c ≠ byte ']' := by
  obtain ⟨low, high⟩ := toNat_bounds_of_isDigit h
  have all : ∀ n : Fin 0x3a, 0x30 ≤ n.val → isSpace (byte (Char.ofNat n.val)) = false ∧
      byte (Char.ofNat n.val) ≠ byte 'n' ∧ byte (Char.ofNat n.val) ≠ byte 't' ∧
      byte (Char.ofNat n.val) ≠ byte 'f' ∧ byte (Char.ofNat n.val) ≠ byte '-' ∧
      byte (Char.ofNat n.val) ≠ byte ']' := by decide
  have hc := all ⟨c.toNat, by omega⟩ low
  rw [Char.ofNat_toNat] at hc
  exact hc

theorem value_digit (rigor : Rigor) (fuel room : Nat) {c : Char} (r : Bytes)
    (h : Decimal.isDigit c = true) :
    value rigor (fuel + 1) room (byte c :: r) = number rigor false (byte c :: r) := by
  have hb := isDigitByte_byte h
  obtain ⟨hspace, hn, ht, hf, hminus, -⟩ := starts_of_isDigit h
  rw [value, skip_byte _ hspace]
  simp only [hn, ht, hf, hminus, hb, if_false, if_true]

theorem items_last {rigor : Rigor} {fuel room : Nat} {bs r : Bytes} {v : Json}
    (h : value rigor fuel room bs = .ok (v, byte ']' :: r)) :
    items rigor (fuel + 1) room bs = .ok ([v], r) := by
  rw [items, h]
  simp +decide only [bind, Except.bind, skip_byte, if_true]

theorem items_more {rigor : Rigor} {fuel room : Nat} {bs r r' : Bytes} {v : Json}
    {vs : List Json} (h : value rigor fuel room bs = .ok (v, byte ',' :: r))
    (hr : items rigor fuel room r = .ok (vs, r')) :
    items rigor (fuel + 1) room bs = .ok (v :: vs, r') := by
  rw [items, h]
  simp +decide only [bind, Except.bind, skip_byte, if_true, if_false, hr]

theorem members_last {rigor : Rigor} {fuel room : Nat} {bs r r' : Bytes} {k : String} {v : Json}
    (hk : readText rigor fuel bs = .ok (some k, byte ':' :: r))
    (hv : value rigor fuel room r = .ok (v, byte '\x7d' :: r')) :
    members rigor (fuel + 1) room (byte '"' :: bs) = .ok ([(some k, v)], r') := by
  rw [members, skip_byte _ (by decide)]
  simp +decide only [hk, hv, bind, Except.bind, skip_byte, if_true, if_false]

theorem members_more {rigor : Rigor} {fuel room : Nat} {bs r r' r'' : Bytes} {k : String}
    {v : Json} {ms : List (Option String × Json)}
    (hk : readText rigor fuel bs = .ok (some k, byte ':' :: r))
    (hv : value rigor fuel room r = .ok (v, byte ',' :: r'))
    (hr : members rigor fuel room r' = .ok (ms, r'')) :
    members rigor (fuel + 1) room (byte '"' :: bs) = .ok ((some k, v) :: ms, r'') := by
  rw [members, skip_byte _ (by decide)]
  simp +decide only [hk, hv, hr, bind, Except.bind, skip_byte, if_true, if_false]

theorem objectOf_named (ms : List (String × Json)) :
    objectOf (ms.map fun m => (some m.1, m.2)) = .object ms := by
  have all : (ms.map fun m => (some m.1, m.2)).mapM (m := Option)
      (fun m => m.1.map fun k => (k, m.2)) = some ms := by
    induction ms with
    | nil => rfl
    | cons m ms ih => simp [ih]
  rw [objectOf, all]

/-! ### The printed text -/

theorem print_opens {v : Json} (h : isExact v = true) :
    ∃ c cs, print v = c :: cs ∧ c.toNat < 0x80 ∧ isSpace (byte c) = false ∧ byte c ≠ byte ']' := by
  cases v with
  | null => exact ⟨'n', _, rfl, by decide⟩
  | bool b => cases b <;> exact ⟨_, _, rfl, by decide⟩
  | int n =>
    rw [print, printInt]
    split
    · exact ⟨'-', _, rfl, by decide⟩
    · obtain ⟨c, ds, hd⟩ := List.exists_cons_of_ne_nil (Decimal.digits_ne_nil n.natAbs)
      have hc : Decimal.isDigit c = true :=
        Decimal.isDigit_of_mem_digits (hd ▸ List.mem_cons_self)
      have hb := toNat_bounds_of_isDigit hc
      obtain ⟨hspace, -, -, -, -, hend⟩ := starts_of_isDigit hc
      exact ⟨c, ds, hd, by omega, hspace, hend⟩
  | string s => exact ⟨'"', _, rfl, by decide⟩
  | array items => exact ⟨'[', _, rfl, by decide⟩
  | object ms => exact ⟨'\x7b', _, rfl, by decide⟩
  | float d => cases h
  | faulty => cases h

theorem ofChars_end (cs : List Char) {c : Char} (h : c.toNat < 0x80) :
    Bytes.ofChars (cs ++ [c]) = Bytes.ofChars cs ++ [byte c] := by
  rw [Bytes.ofChars_append, ofChars_cons_of_lt _ h]
  rfl

theorem value_int (rigor : Rigor) {n : Int} (fuel room : Nat) {r : Bytes}
    (h : isExact (.int n) = true) (hr : EndsNumber r) :
    value rigor (fuel + 1) room (Bytes.ofChars (printInt n) ++ r) = .ok (.int n, r) := by
  simp only [isExact, Bool.and_eq_true, decide_eq_true_eq] at h
  rw [printInt]
  split
  next hneg =>
    have hv := numberValue?_negative (n := n.natAbs) (by omega) (by omega)
    have hn : -(n.natAbs : Int) = n := by omega
    rw [hn] at hv
    rw [ofChars_cons_of_lt _ (by decide), List.cons_append, value_minus]
    exact number_digits rigor true hr hv
  next hpos =>
    have hv := numberValue?_nonneg (n := n.natAbs) (by omega)
    have hn : (n.natAbs : Int) = n := by omega
    rw [hn] at hv
    have hnumber := number_digits rigor false hr hv
    obtain ⟨c, ds, hd⟩ := List.exists_cons_of_ne_nil (Decimal.digits_ne_nil n.natAbs)
    have hc : Decimal.isDigit c = true :=
      Decimal.isDigit_of_mem_digits (hd ▸ List.mem_cons_self)
    have hb := toNat_bounds_of_isDigit hc
    rw [hd, ofChars_cons_of_lt _ (by omega), List.cons_append] at hnumber ⊢
    rw [value_digit rigor fuel room _ hc, hnumber]

theorem value_printText (rigor : Rigor) (s : String) {fuel : Nat} (room : Nat) (r : Bytes)
    (h : (Bytes.ofChars (printText s)).length ≤ fuel) :
    value rigor (fuel + 1) room (Bytes.ofChars (printText s) ++ r) = .ok (.string s, r) := by
  have read := readText_printed rigor s fuel r h
  have text : Bytes.ofChars (printText s) ++ r =
      byte '"' :: (Bytes.ofChars (s.toList.flatMap escapeChar) ++ byte '"' :: r) := by
    rw [printText, List.cons_append, ofChars_cons_of_lt _ (by decide), ofChars_end _ (by decide)]
    simp
  rw [text]
  exact value_string room read

theorem ofChars_array (cs : List Char) :
    Bytes.ofChars ('[' :: cs ++ [']']) = byte '[' :: (Bytes.ofChars cs ++ [byte ']']) := by
  rw [List.cons_append, ofChars_cons_of_lt _ (by decide), ofChars_end _ (by decide)]

theorem ofChars_object (cs : List Char) :
    Bytes.ofChars ('\x7b' :: cs ++ ['\x7d']) =
      byte '\x7b' :: (Bytes.ofChars cs ++ [byte '\x7d']) := by
  rw [List.cons_append, ofChars_cons_of_lt _ (by decide), ofChars_end _ (by decide)]

theorem ofChars_between (a b : List Char) {c : Char} (h : c.toNat < 0x80) :
    Bytes.ofChars (a ++ c :: b) = Bytes.ofChars a ++ byte c :: Bytes.ofChars b := by
  rw [Bytes.ofChars_append, ofChars_cons_of_lt _ h]

theorem ofChars_printText (s : String) : Bytes.ofChars (printText s) =
    byte '"' :: (Bytes.ofChars (s.toList.flatMap escapeChar) ++ [byte '"']) := by
  rw [printText, List.cons_append, ofChars_cons_of_lt _ (by decide), ofChars_end _ (by decide)]

theorem ofChars_print_opens {v : Json} (h : isExact v = true) (s : List Char) :
    ∃ c r, Bytes.ofChars (print v ++ s) = c :: r ∧ isSpace c = false ∧ c ≠ byte ']' := by
  obtain ⟨c, cs, hp, hlt, hspace, hend⟩ := print_opens h
  refine ⟨byte c, Bytes.ofChars (cs ++ s), ?_, hspace, hend⟩
  rw [hp, List.cons_append, ofChars_cons_of_lt _ hlt]

theorem ofChars_items_opens {v : Json} {vs : List Json} (h : isExactItems (v :: vs) = true) :
    ∃ c r, Bytes.ofChars (printItems (v :: vs)) = c :: r ∧ isSpace c = false ∧ c ≠ byte ']' := by
  simp only [isExactItems, Bool.and_eq_true] at h
  cases vs with
  | nil =>
    have opens := ofChars_print_opens h.1 []
    rw [List.append_nil] at opens
    exact opens
  | cons w vs => exact ofChars_print_opens h.1 _

theorem ofChars_print_pos {v : Json} (h : isExact v = true) :
    0 < (Bytes.ofChars (print v)).length := by
  obtain ⟨c, r, hp, -⟩ := ofChars_print_opens h []
  rw [List.append_nil] at hp
  rw [hp]
  exact Nat.succ_pos _

theorem ofChars_members_opens (k : String) (v : Json) (ms : List (String × Json)) :
    ∃ s : Bytes, Bytes.ofChars (printMembers ((k, v) :: ms)) = byte '"' :: s := by
  cases ms with
  | nil => exact ⟨_, by rw [printMembers, printText]; exact ofChars_cons_of_lt _ (by decide)⟩
  | cons m ms =>
    exact ⟨_, by rw [printMembers, printText]; exact ofChars_cons_of_lt _ (by decide)⟩

mutual
/-- The induction: `fuel` is two steps for each byte, and a value in an array or an object has one
room less. -/
theorem value_print (rigor : Rigor) : ∀ (v : Json) (fuel room : Nat) (r : Bytes),
    isExact v = true → (rigor = .full → depth v ≤ room) →
    2 * (Bytes.ofChars (print v)).length ≤ fuel → EndsNumber r →
    value rigor fuel room (Bytes.ofChars (print v) ++ r) = .ok (v, r)
  | .null, fuel, room, r, h, _, hf, _ => by
    have hpos := ofChars_print_pos h
    obtain ⟨fuel, rfl⟩ : ∃ k, fuel = k + 1 := ⟨fuel - 1, by omega⟩
    rfl
  | .bool true, fuel, room, r, h, _, hf, _ => by
    have hpos := ofChars_print_pos h
    obtain ⟨fuel, rfl⟩ : ∃ k, fuel = k + 1 := ⟨fuel - 1, by omega⟩
    rfl
  | .bool false, fuel, room, r, h, _, hf, _ => by
    have hpos := ofChars_print_pos h
    obtain ⟨fuel, rfl⟩ : ∃ k, fuel = k + 1 := ⟨fuel - 1, by omega⟩
    rfl
  | .int n, fuel, room, r, h, _, hf, hr => by
    have hpos := ofChars_print_pos h
    obtain ⟨fuel, rfl⟩ : ∃ k, fuel = k + 1 := ⟨fuel - 1, by omega⟩
    exact value_int rigor fuel room h hr
  | .string s, fuel, room, r, h, _, hf, _ => by
    have hpos := ofChars_print_pos h
    obtain ⟨fuel, rfl⟩ : ∃ k, fuel = k + 1 := ⟨fuel - 1, by omega⟩
    rw [print] at hf hpos ⊢
    exact value_printText rigor s room r (by omega)
  | .array [], fuel, room, r, h, hd, hf, _ => by
    have hpos := ofChars_print_pos h
    obtain ⟨fuel, rfl⟩ : ∃ k, fuel = k + 1 := ⟨fuel - 1, by omega⟩
    exact value_array_nil fuel r fun hr => Nat.lt_of_lt_of_le (by simp [depth]) (hd hr)
  | .array (v :: vs), fuel, room, r, h, hd, hf, _ => by
    rw [print, ofChars_array, List.length_cons, List.length_append, List.length_singleton] at hf
    obtain ⟨fuel, rfl⟩ : ∃ k, fuel = k + 1 := ⟨fuel - 1, by omega⟩
    have inside : rigor = .full → depthItems (v :: vs) + 1 ≤ room := hd
    have read := items_print rigor v vs fuel (room - 1) r h
      (fun hr => Nat.le_sub_one_of_lt (inside hr)) (by omega)
    obtain ⟨c, s, hs, hspace, hend⟩ := ofChars_items_opens h
    rw [hs, List.cons_append] at read
    rw [print, ofChars_array, List.cons_append, List.append_assoc, List.singleton_append, hs,
      List.cons_append]
    refine value_array (fun hr => Nat.lt_of_lt_of_le (Nat.succ_pos _) (inside hr)) ?_ hend read
    rw [skip, List.dropWhile_cons, hspace]
    rfl
  | .object [], fuel, room, r, h, hd, hf, _ => by
    have hpos := ofChars_print_pos h
    obtain ⟨fuel, rfl⟩ : ∃ k, fuel = k + 1 := ⟨fuel - 1, by omega⟩
    exact value_object_nil fuel r fun hr => Nat.lt_of_lt_of_le (by simp [depth]) (hd hr)
  | .object ((k, v) :: ms), fuel, room, r, h, hd, hf, _ => by
    rw [print, ofChars_object, List.length_cons, List.length_append, List.length_singleton] at hf
    obtain ⟨fuel, rfl⟩ : ∃ k, fuel = k + 1 := ⟨fuel - 1, by omega⟩
    have inside : rigor = .full → depthMembers ((k, v) :: ms) + 1 ≤ room := hd
    have read := members_print rigor (k, v) ms fuel (room - 1) r h
      (fun hr => Nat.le_sub_one_of_lt (inside hr)) (by omega)
    obtain ⟨s, hs⟩ := ofChars_members_opens k v ms
    rw [hs, List.cons_append] at read
    rw [print, ofChars_object, List.cons_append, List.append_assoc, List.singleton_append, hs,
      List.cons_append, ← objectOf_named]
    exact value_object (fun hr => Nat.lt_of_lt_of_le (Nat.succ_pos _) (inside hr)) read
termination_by v => sizeOf v

theorem items_print (rigor : Rigor) : ∀ (v : Json) (vs : List Json) (fuel room : Nat) (r : Bytes),
    isExactItems (v :: vs) = true → (rigor = .full → depthItems (v :: vs) ≤ room) →
    2 * (Bytes.ofChars (printItems (v :: vs))).length + 1 ≤ fuel →
    items rigor fuel room (Bytes.ofChars (printItems (v :: vs)) ++ byte ']' :: r) =
      .ok (v :: vs, r)
  | v, [], fuel, room, r, h, hd, hf => by
    obtain ⟨fuel, rfl⟩ : ∃ k, fuel = k + 1 := ⟨fuel - 1, by omega⟩
    simp only [isExactItems, Bool.and_eq_true] at h
    simp only [depthItems, Nat.max_zero] at hd
    rw [printItems] at hf ⊢
    exact items_last (value_print rigor v fuel room _ h.1 hd (by omega)
      (endsNumber_cons r (by decide)))
  | v, w :: vs, fuel, room, r, h, hd, hf => by
    obtain ⟨fuel, rfl⟩ : ∃ k, fuel = k + 1 := ⟨fuel - 1, by omega⟩
    rw [isExactItems, Bool.and_eq_true] at h
    rw [printItems, ofChars_between _ _ (by decide)] at hf ⊢
    rw [List.length_append, List.length_cons] at hf
    have within : rigor = .full → depth v ≤ room ∧ depthItems (w :: vs) ≤ room := fun hr =>
      Nat.max_le.1 (hd hr)
    have first := value_print rigor v fuel room
      (byte ',' :: (Bytes.ofChars (printItems (w :: vs)) ++ byte ']' :: r)) h.1
      (fun hr => (within hr).1) (by omega) (endsNumber_cons _ (by decide))
    have rest := items_print rigor w vs fuel room r h.2 (fun hr => (within hr).2) (by omega)
    rw [List.append_assoc, List.cons_append]
    exact items_more first rest
termination_by v vs => sizeOf (v :: vs)

theorem members_print (rigor : Rigor) : ∀ (m : String × Json) (ms : List (String × Json))
    (fuel room : Nat) (r : Bytes),
    isExactMembers (m :: ms) = true → (rigor = .full → depthMembers (m :: ms) ≤ room) →
    2 * (Bytes.ofChars (printMembers (m :: ms))).length + 1 ≤ fuel →
    members rigor fuel room (Bytes.ofChars (printMembers (m :: ms)) ++ byte '\x7d' :: r) =
      .ok ((m :: ms).map fun m => (some m.1, m.2), r)
  | (k, v), [], fuel, room, r, h, hd, hf => by
    obtain ⟨fuel, rfl⟩ : ∃ k, fuel = k + 1 := ⟨fuel - 1, by omega⟩
    simp only [isExactMembers, Bool.and_eq_true] at h
    simp only [depthMembers, Nat.max_zero] at hd
    rw [printMembers, ofChars_between _ _ (by decide)] at hf ⊢
    rw [List.length_append, List.length_cons] at hf
    have name := readText_printed rigor k fuel
      (byte ':' :: (Bytes.ofChars (print v) ++ byte '\x7d' :: r)) (by omega)
    have last := value_print rigor v fuel room (byte '\x7d' :: r) h.1 hd (by omega)
      (endsNumber_cons r (by decide))
    simp only [ofChars_printText, List.append_assoc, List.cons_append, List.nil_append]
    exact members_last name last
  | (k, v), m :: ms, fuel, room, r, h, hd, hf => by
    obtain ⟨fuel, rfl⟩ : ∃ k, fuel = k + 1 := ⟨fuel - 1, by omega⟩
    rw [isExactMembers, Bool.and_eq_true] at h
    rw [printMembers, List.append_assoc, List.cons_append, ofChars_between _ _ (by decide),
      ofChars_between _ _ (by decide)] at hf ⊢
    simp only [List.length_append, List.length_cons] at hf
    have within : rigor = .full → depth v ≤ room ∧ depthMembers (m :: ms) ≤ room := fun hr =>
      Nat.max_le.1 (hd hr)
    have name := readText_printed rigor k fuel (byte ':' :: (Bytes.ofChars (print v) ++
      byte ',' :: (Bytes.ofChars (printMembers (m :: ms)) ++ byte '\x7d' :: r))) (by omega)
    have first := value_print rigor v fuel room
      (byte ',' :: (Bytes.ofChars (printMembers (m :: ms)) ++ byte '\x7d' :: r)) h.1
      (fun hr => (within hr).1) (by omega) (endsNumber_cons _ (by decide))
    have rest := members_print rigor m ms fuel room r h.2 (fun hr => (within hr).2) (by omega)
    simp only [ofChars_printText, List.append_assoc, List.cons_append, List.nil_append]
    exact members_more name first rest
termination_by m ms => sizeOf (m :: ms)
end

/-! ### Documents -/

theorem document_text (rigor : Rigor) {v : Json} (h : isExact v = true)
    (hd : rigor = .full → depth v ≤ maxDepth) :
    document rigor (Bytes.ofText v.text) = .ok v := by
  have read := value_print rigor v (2 * (Bytes.ofChars (print v)).length + 2) maxDepth [] h hd
    (by omega) endsNumber_nil
  rw [List.append_nil] at read
  rw [text, Bytes.ofText_ofList, document, read]
  rfl

theorem outline?_text {v : Json} (h : isExact v = true) :
    outline? (Bytes.ofText v.text) = some v := by
  rw [outline?, document_text .outline h fun hr => by cases hr]
  rfl

theorem read_text {v : Json} (h : isExact v = true) (hd : depth v ≤ maxDepth) :
    read (Bytes.ofText v.text) = .ok v := by
  rw [read, document_text .full h fun _ => hd]
  rfl

end Casebook.Json
