import Casebook.Cache.Key
import Casebook.Proofs.Record.RoundTrip
import Casebook.Proofs.Text.Trimming

/-!
# Names of cases

Which texts name a case, and when two texts name the same one: a text is a name if between the blanks
around it there are 1 to 128 ASCII letters, digits, points, underscores and dashes, and these are the id.
An id is named by its own text and by its document form, and has a cache key of its own.
-/

namespace Casebook.CaseId

/-! ### Legal texts -/

def IsNameChar (c : Char) : Prop :=
  'A' ≤ c ∧ c ≤ 'Z' ∨ 'a' ≤ c ∧ c ≤ 'z' ∨ '0' ≤ c ∧ c ≤ '9' ∨ c = '.' ∨ c = '_' ∨ c = '-'

structure IsName (s : List Char) : Prop where
  notEmpty : 1 ≤ s.length
  atMost : s.length ≤ 128
  chars : ∀ c ∈ s, IsNameChar c

theorem isLegalChar_iff {c : Char} : isLegalChar c = true ↔ IsNameChar c := by
  unfold isLegalChar IsNameChar Char.isAlphanum Char.isAlpha Char.isUpper Char.isLower Char.isDigit
  simp only [Bool.or_eq_true, Bool.and_eq_true, decide_eq_true_eq, Char.le_def, ge_iff_le, or_assoc]

theorem toNat_lt_of_isNameChar {c : Char} (h : IsNameChar c) : c.toNat < 0x80 := by
  unfold IsNameChar at h
  simp only [Char.le_def, UInt32.le_iff_toNat_le] at h
  have code : c.val.toNat = c.toNat := rfl
  rcases h with ⟨-, h⟩ | ⟨-, h⟩ | ⟨-, h⟩ | rfl | rfl | rfl
  · have : 'Z'.val.toNat = 90 := rfl
    omega
  · have : 'z'.val.toNat = 122 := rfl
    omega
  · have : '9'.val.toNat = 57 := rfl
    omega
  · decide
  · decide
  · decide

theorem length_ofChars {s : List Char} (h : ∀ c ∈ s, c.toNat < 0x80) :
    (Bytes.ofChars s).length = s.length := by
  induction s with
  | nil => rfl
  | cons c s ih =>
    rw [Json.ofChars_cons_of_lt s (h c List.mem_cons_self), List.length_cons, List.length_cons,
      ih fun d hd => h d (List.mem_cons_of_mem c hd)]

/-- ASCII characters take a byte each, so that counting bytes counts them. -/
theorem utf8ByteSize_eq_length {s : String} (h : ∀ c ∈ s.toList, IsNameChar c) :
    s.utf8ByteSize = s.toList.length := by
  have bytes : (Bytes.ofText s).length = s.utf8ByteSize := by simp [Bytes.ofText]
  rw [← bytes, ← Bytes.ofChars_toList, length_ofChars fun c hc => toNat_lt_of_isNameChar (h c hc)]

theorem isLegal_iff {s : String} : IsLegal s ↔ IsName s.toList := by
  have empty : s ≠ "" ↔ 1 ≤ s.toList.length := by
    rw [← String.toList_inj.ne]
    exact List.length_pos_iff.symm
  constructor
  · rintro ⟨some_character, short, legal⟩
    have chars : ∀ c ∈ s.toList, IsNameChar c := fun c hc => isLegalChar_iff.1 (legal c hc)
    rw [utf8ByteSize_eq_length chars] at short
    exact ⟨empty.1 some_character, short, chars⟩
  · rintro ⟨some_character, short, chars⟩
    refine ⟨empty.2 some_character, ?_, fun c hc => isLegalChar_iff.2 (chars c hc)⟩
    rw [utf8ByteSize_eq_length chars]
    exact short

/-! ### Texts that name a case -/

theorem trims_text_iff {raw : String} {c : CaseId} :
    Text.Trims raw.toList c.text.toList ↔ c.text = Text.trimmed raw := by
  rw [Text.trims_iff, ← String.toList_inj, Text.toList_trimmed]
  exact eq_comm

theorem exists_parse_iff {raw : String} :
    (∃ c, parse raw = .ok c) ↔ IsName (Text.trim raw.toList) := by
  rw [← Text.toList_trimmed, ← isLegal_iff]
  constructor
  · rintro ⟨c, parsed⟩
    rw [← parse_eq_ok_iff.1 parsed]
    exact c.isLegal
  · intro legal
    exact ⟨⟨Text.trimmed raw, legal⟩, parse_eq_ok_iff.2 rfl⟩

theorem outline?_text (c : CaseId) :
    (Json.outline? (Bytes.ofText c.toJson.text)).bind ofJson? = some c := by
  rw [Json.outline?_text (v := c.toJson) rfl, Option.bind_some, ofJson?_toJson]

theorem keyOf_eq_iff {a b : CaseId} : Cache.keyOf a = Cache.keyOf b ↔ a.text = b.text := by
  constructor
  · intro same
    rw [Cache.keyOf_injective same]
  · intro same
    rw [Cache.keyOf, Cache.keyOf, same]

/-- What a text names. -/
structure Names (raw : String) : Prop where
  accepted : (∃ c, parse raw = .ok c) ↔ ∃ text, Text.Trims raw.toList text ∧ IsName text
  text : ∀ c, parse raw = .ok c ↔ Text.Trims raw.toList c.text.toList
  unique : ∀ text other, Text.Trims raw.toList text → Text.Trims raw.toList other → text = other
  again : ∀ c, parse raw = .ok c → parse c.text = .ok c ∧
    (Json.outline? (Bytes.ofText c.toJson.text)).bind ofJson? = some c
  key : ∀ other c d, parse raw = .ok c → parse other = .ok d →
    (Cache.keyOf c = Cache.keyOf d ↔ Text.trimmed raw = Text.trimmed other)

theorem parse_names (raw : String) : Names raw where
  accepted := by
    rw [exists_parse_iff]
    constructor
    · intro name
      exact ⟨_, Text.trims_trim raw.toList, name⟩
    · rintro ⟨text, trims, name⟩
      rw [trims.trim_eq]
      exact name
  text c := parse_eq_ok_iff.trans trims_text_iff.symm
  unique text other trims trims' := trims.trim_eq.symm.trans trims'.trim_eq
  again c _ := ⟨parse_text c, outline?_text c⟩
  key other c d parsed parsed' := by
    rw [keyOf_eq_iff, parse_eq_ok_iff.1 parsed, parse_eq_ok_iff.1 parsed']

end Casebook.CaseId
