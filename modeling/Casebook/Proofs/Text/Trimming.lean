import Casebook.Decimal.Digits
import Casebook.Text.Blank
import Casebook.Text.Substitute
import Mathlib.Data.List.DropRight

/-!
# Trimmed texts

Trimming takes the blanks at both ends of a text and nothing else: the rest neither begins nor ends with
a blank, and there is only one such rest. Trimming once more changes nothing.
-/

namespace Casebook.Text

def IsBlank (s : List Char) : Prop := ∀ c ∈ s, isBlank c = true

def HeadVisible (s : List Char) : Prop := ∀ c ∈ s.head?, isBlank c = false

def LastVisible (s : List Char) : Prop := ∀ c ∈ s.getLast?, isBlank c = false

/-- `core` is what is left of a text without the blanks around it. -/
structure Trims (s core : List Char) : Prop where
  around : ∃ front back, s = front ++ core ++ back ∧ IsBlank front ∧ IsBlank back
  head : HeadVisible core
  last : LastVisible core

theorem isBlank_of_isDigit {c : Char} (h : Decimal.isDigit c = true) : isBlank c = false :=
  isBlank_of_not_blanks (by decide) h

/-! ### One end -/

theorem trimLeft_append {front : List Char} (h : IsBlank front) (s : List Char) :
    trimLeft (front ++ s) = trimLeft s := by
  unfold trimLeft
  exact List.dropWhile_append_of_pos h

theorem trimRight_append {back : List Char} (h : IsBlank back) (s : List Char) :
    trimRight (s ++ back) = trimRight s := by
  have reversed : IsBlank back.reverse := fun c hc => h c (List.mem_reverse.1 hc)
  unfold trimRight
  rw [List.reverse_append, List.dropWhile_append_of_pos reversed]

theorem trimLeft_eq_self_iff {s : List Char} : trimLeft s = s ↔ HeadVisible s := by
  unfold trimLeft HeadVisible
  cases s with
  | nil => simp
  | cons c r => simp [List.dropWhile_eq_self_iff]

theorem trimRight_eq_self_iff {s : List Char} : trimRight s = s ↔ LastVisible s := by
  unfold LastVisible
  show s.rdropWhile isBlank = s ↔ _
  rw [List.rdropWhile_eq_self_iff]
  cases s using List.reverseRecOn with
  | nil => simp
  | append_singleton s c => simp

theorem headVisible_trimLeft (s : List Char) : HeadVisible (trimLeft s) := by
  rw [← trimLeft_eq_self_iff]
  exact List.dropWhile_idempotent isBlank s

theorem lastVisible_trimRight (s : List Char) : LastVisible (trimRight s) := by
  rw [← trimRight_eq_self_iff]
  exact List.rdropWhile_idempotent isBlank s

theorem exists_trimLeft (s : List Char) : ∃ front, s = front ++ trimLeft s ∧ IsBlank front :=
  ⟨s.takeWhile isBlank, List.takeWhile_append_dropWhile.symm, fun _ => List.mem_takeWhile_imp⟩

theorem exists_trimRight (s : List Char) : ∃ back, s = trimRight s ++ back ∧ IsBlank back :=
  ⟨s.rtakeWhile isBlank, List.rdropWhile_append_rtakeWhile.symm,
    fun _ => List.mem_rtakeWhile_imp⟩

/-- What is cut off at the end does not show at the front. -/
theorem HeadVisible.of_append {s back : List Char} (h : HeadVisible (s ++ back)) :
    HeadVisible s := by
  unfold HeadVisible at h ⊢
  cases s with
  | nil => simp
  | cons c r => simpa using h

/-! ### Both ends -/

theorem trims_trim (s : List Char) : Trims s (trim s) := by
  obtain ⟨front, cutFront, blankFront⟩ := exists_trimLeft s
  obtain ⟨back, cutBack, blankBack⟩ := exists_trimRight (trimLeft s)
  have head := headVisible_trimLeft s
  rw [cutBack] at head
  refine ⟨⟨front, back, ?_, blankFront, blankBack⟩, head.of_append, lastVisible_trimRight _⟩
  unfold trim
  rw [List.append_assoc, ← cutBack]
  exact cutFront

theorem trim_of_visible {s : List Char} (head : HeadVisible s) (last : LastVisible s) :
    trim s = s := by
  unfold trim
  rw [trimLeft_eq_self_iff.2 head, trimRight_eq_self_iff.2 last]

theorem trim_of_forall {s : List Char} (h : ∀ c ∈ s, isBlank c = false) : trim s = s :=
  trim_of_visible (fun c hc => h c (List.mem_of_mem_head? hc))
    fun c hc => h c (List.mem_of_mem_getLast? hc)

theorem Trims.trim_eq {s core : List Char} (h : Trims s core) : trim s = core := by
  obtain ⟨front, back, rfl, blankFront, blankBack⟩ := h.around
  have inner : trim (front ++ core ++ back) = trimRight (trimLeft (core ++ back)) := by
    unfold trim
    rw [List.append_assoc, trimLeft_append blankFront]
  rw [inner]
  cases core with
  | nil =>
    have gone : trimLeft back = [] := List.dropWhile_eq_nil_iff.2 blankBack
    rw [List.nil_append, gone]
    rfl
  | cons c r =>
    have kept : trimLeft (c :: r ++ back) = c :: r ++ back :=
      trimLeft_eq_self_iff.2 fun d hd => h.head d (by simpa using hd)
    rw [kept, trimRight_append blankBack, trimRight_eq_self_iff.2 h.last]

theorem trims_iff {s core : List Char} : Trims s core ↔ trim s = core :=
  ⟨Trims.trim_eq, fun h => h ▸ trims_trim s⟩

theorem trim_eq_nil_iff {s : List Char} : trim s = [] ↔ ∀ c ∈ s, isBlank c = true := by
  constructor
  · intro gone
    obtain ⟨front, back, same, blankFront, blankBack⟩ := (trims_trim s).around
    rw [gone, List.append_nil] at same
    rw [same]
    exact List.forall_mem_append.2 ⟨blankFront, blankBack⟩
  · intro blank
    exact Trims.trim_eq ⟨⟨s, [], by simp, blank, List.forall_mem_nil _⟩, nofun, nofun⟩

theorem trim_trim (s : List Char) : trim (trim s) = trim s :=
  trim_of_visible (trims_trim s).head (trims_trim s).last

theorem trimmed_trimmed (s : String) : trimmed (trimmed s) = trimmed s := by
  simp [trimmed, trim_trim]

theorem toList_trimmed (s : String) : (trimmed s).toList = trim s.toList :=
  String.toList_ofList

end Casebook.Text
