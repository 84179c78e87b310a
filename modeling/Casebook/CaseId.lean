import Casebook.Text.Blank

/-!
# Case ids

A support case is named by up to 128 ASCII letters, digits, points, underscores and dashes, so that the
name can stand in a cache key or a path as it is. Main statements: reading trims blanks and accepts
exactly the texts that are legal after that, and a legal text reads as itself.
-/

namespace Casebook

namespace CaseId

def maxLength : Nat := 128

def isLegalChar (c : Char) : Bool :=
  c.isAlphanum || c = '.' || c = '_' || c = '-'

def IsLegal (s : String) : Prop :=
  s ≠ "" ∧ s.utf8ByteSize ≤ maxLength ∧ ∀ c ∈ s.toList, isLegalChar c = true

inductive Fault where
  | missing
  | tooLong
  | badCharacter (c : Char)
  deriving DecidableEq, Repr

end CaseId

structure CaseId where
  text : String
  isLegal : CaseId.IsLegal text
  deriving DecidableEq

namespace CaseId

/-- Reads a case id between blanks; of several faults the first one listed is named. -/
def parse (raw : String) : Except Fault CaseId :=
  let s := Text.trimmed raw
  if h : s = "" then .error .missing
  else if hl : maxLength < s.utf8ByteSize then .error .tooLong
  else
    match hc : s.toList.find? fun c => !isLegalChar c with
    | some c => .error (.badCharacter c)
    | none => .ok ⟨s, h, Nat.le_of_not_lt hl, fun c hm => by
        simpa using List.find?_eq_none.1 hc c hm⟩

theorem isBlank_of_isLegalChar {c : Char} (h : isLegalChar c = true) : Text.isBlank c = false :=
  Text.isBlank_of_not_blanks (by decide) h

theorem trimmed_of_isLegal {s : String} (h : IsLegal s) : Text.trimmed s = s :=
  Text.trimmed_of_forall fun c hc => isBlank_of_isLegalChar (h.2.2 c hc)

theorem parse_eq_ok_iff {raw : String} {c : CaseId} :
    parse raw = .ok c ↔ c.text = Text.trimmed raw := by
  constructor
  · intro h
    simp only [parse] at h
    split at h
    · cases h
    · split at h
      · cases h
      · split at h
        · cases h
        · exact (Except.ok.inj h) ▸ rfl
  · intro h
    obtain ⟨s, hs⟩ := c
    obtain ⟨hempty, hlong, hlegal⟩ := hs
    subst h
    simp only [parse]
    rw [dif_neg hempty, dif_neg (Nat.not_lt.2 hlong)]
    split
    next d hd =>
      have hbad := List.find?_some hd
      rw [hlegal d (List.mem_of_find?_eq_some hd)] at hbad
      cases hbad
    next => rfl

theorem parse_text (c : CaseId) : parse c.text = .ok c :=
  parse_eq_ok_iff.2 (trimmed_of_isLegal c.isLegal).symm

end CaseId
end Casebook
