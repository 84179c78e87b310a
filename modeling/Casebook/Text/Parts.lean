/-!
# Parts between marks

A text is cut at its marks; marks side by side have an empty part between them. Main statement: the
parts together with the marks between them are the text.
-/

namespace Casebook.Text

def parts (isMark : Char → Bool) : List Char → List (List Char)
  | [] => [[]]
  | c :: r =>
    if isMark c then [] :: parts isMark r
    else
      match parts isMark r with
      | [] => [[c]]
      | p :: ps => (c :: p) :: ps

/-- The parts of a text between the marks of one kind. -/
def cut (mark : Char) (s : String) : List String :=
  (parts (· = mark) s.toList).map String.ofList

theorem parts_ne_nil (isMark : Char → Bool) (s : List Char) : parts isMark s ≠ [] := by
  cases s with
  | nil => simp [parts]
  | cons c r =>
    rw [parts]
    split
    · simp
    · split <;> simp

theorem parts_of_forall {isMark : Char → Bool} {s : List Char} (h : ∀ c ∈ s, isMark c = false) :
    parts isMark s = [s] := by
  induction s with
  | nil => rfl
  | cons c r ih =>
    rw [parts, ih fun d hd => h d (List.mem_cons_of_mem _ hd)]
    simp [h c List.mem_cons_self]

theorem parts_append {isMark : Char → Bool} {s : List Char} (h : ∀ c ∈ s, isMark c = false)
    {mark : Char} (hm : isMark mark = true) (r : List Char) :
    parts isMark (s ++ mark :: r) = s :: parts isMark r := by
  induction s with
  | nil => rw [List.nil_append, parts, if_pos hm]
  | cons c s ih =>
    have hc : ¬isMark c = true := by simp [h c List.mem_cons_self]
    rw [List.cons_append, parts, if_neg hc, ih fun d hd => h d (List.mem_cons_of_mem _ hd)]

theorem intercalate_parts (mark : Char) (s : List Char) :
    [mark].intercalate (parts (· = mark) s) = s := by
  induction s with
  | nil => rfl
  | cons c r ih =>
    rw [parts]
    cases hp : parts (· = mark) r with
    | nil => exact absurd hp (parts_ne_nil _ r)
    | cons p ps =>
      rw [hp] at ih
      by_cases hc : c = mark
      · simp [hc, List.intercalate, ← ih]
      · cases ps <;> simp_all [List.intercalate, List.intersperse]

end Casebook.Text
