import Casebook.Proofs.Feed.Splicing

/-!
# Addresses tell cases apart

A text is its pieces joined by the mark, and with a value put in the same pieces are joined by the value.
The value may look like a part of a piece or of the mark, so it is not found by looking for it. But the
length of the result gives the length of the value, and the value begins where the first piece ends.
-/

namespace Casebook.Text

variable {m : List Char}

/-! ### Pieces between marks -/

theorem length_intercalate (v p : List Char) (ps : List (List Char)) :
    (v.intercalate (p :: ps)).length = (p :: ps).flatten.length + ps.length * v.length := by
  induction ps generalizing p with
  | nil => simp
  | cons q qs ih =>
    have rest := ih q
    simp only [List.intercalate_cons_cons, List.flatten_cons, List.length_append, List.length_cons,
      Nat.succ_mul] at rest ⊢
    omega

theorem intercalate_injective (p : List Char) {ps : List (List Char)} (several : ps ≠ []) :
    Function.Injective fun v : List Char => v.intercalate (p :: ps) := by
  intro v w same
  obtain ⟨q, qs, rfl⟩ := List.exists_cons_of_ne_nil several
  simp only at same
  have long : v.length = w.length := by
    have total := congrArg List.length same
    rw [length_intercalate, length_intercalate] at total
    have joints := Nat.add_left_cancel total
    exact Nat.eq_of_mul_eq_mul_left (by simp) joints
  rw [List.intercalate_cons_cons, List.intercalate_cons_cons, List.append_assoc,
    List.append_assoc] at same
  have behind := List.append_cancel_left same
  exact (List.append_inj behind long).1

/-- The pieces of a text do not depend on what is put between them. -/
theorem exists_pieces (hm : m ≠ []) (s : List Char) :
    ∃ p ps, s = m.intercalate (p :: ps) ∧ (ps ≠ [] ↔ m <:+: s) ∧
      ∀ v, substitute m v s = v.intercalate (p :: ps) := by
  induction s using mark_induction hm with
  | nil =>
    exact ⟨[], [], by simp, by simpa using hm, fun v => by simp [substitute, substituteFrom]⟩
  | mark r ih =>
    obtain ⟨p, ps, joined, -, put⟩ := ih
    refine ⟨[], p :: ps, ?_, ?_, ?_⟩
    · rw [List.intercalate_cons_cons, List.nil_append, ← joined]
    · exact iff_of_true (List.cons_ne_nil p ps) (List.prefix_append m r).isInfix
    · intro v
      rw [substitute_mark v hm, put v, List.intercalate_cons_cons, List.nil_append]
  | char c s front ih =>
    obtain ⟨p, ps, joined, marked, put⟩ := ih
    have grown : ∀ v : List Char, v.intercalate ((c :: p) :: ps) = c :: v.intercalate (p :: ps) := by
      intro v
      cases ps <;> simp [List.intercalate_cons_cons]
    refine ⟨c :: p, ps, ?_, ?_, ?_⟩
    · rw [grown, ← joined]
    · rw [marked, List.infix_cons_iff, or_iff_right front]
    · intro v
      rw [substitute_cons v front, put v, grown]

theorem substitute_injective_iff (hm : m ≠ []) (s : List Char) :
    (Function.Injective fun v => substitute m v s) ↔ m <:+: s := by
  obtain ⟨p, ps, -, marked, put⟩ := exists_pieces hm s
  constructor
  · intro apart
    refine Decidable.byContradiction fun absent => ?_
    have same : substitute m [] s = substitute m m s := by
      rw [substitute_of_absent [] absent, substitute_of_absent m absent]
    exact hm (apart same).symm
  · intro present
    simp only [put]
    exact intercalate_injective p (marked.2 present)

end Casebook.Text

namespace Casebook.Feed

/-! ### Addresses of two cases -/

theorem caseId_eq_of_toList {c d : CaseId} (same : c.text.toList = d.text.toList) : c = d := by
  obtain ⟨text, legal⟩ := c
  obtain ⟨text', legal'⟩ := d
  obtain rfl : text = text' := String.toList_inj.1 same
  rfl

theorem Endpoint.urlFor_eq_iff (e : Endpoint) (c d : CaseId) : e.urlFor c = e.urlFor d ↔
    Text.substitute placeholder.toList c.text.toList e.path.toList =
      Text.substitute placeholder.toList d.text.toList e.path.toList := by
  rw [urlFor, urlFor, ← String.toList_inj, String.toList_append, String.toList_append,
    String.toList_ofList, String.toList_ofList, List.append_cancel_left_eq]

/-- Whatever the base is, and wherever and however often the path has its mark, different cases have
different addresses. -/
theorem urlFor_injective (source : Source) (base : String) {path : String}
    (accepted : TimelineSettings.checkPath path = .ok ()) :
    Function.Injective (Endpoint.ofBase source base path).urlFor := by
  intro c d same
  have marked := Text.occursIn_iff.1 (TimelineSettings.checkPath_ok.1 accepted).2
  have apart := (Text.substitute_injective_iff mark_ne_nil path.toList).2 marked
  have texts := (Endpoint.urlFor_eq_iff _ c d).1 same
  exact caseId_eq_of_toList (apart texts)

/-- A path with marks next to each other and inside of braces. -/
theorem urlFor_injective_braces :
    TimelineSettings.checkPath "/\x7b\x7bcase_id\x7d\x7d/\x7bcase_\x7bcase_id\x7d\x7bcase_id\x7did\x7d" =
        .ok () ∧
      Function.Injective (Endpoint.ofBase .order "https://orders.example//"
        "/\x7b\x7bcase_id\x7d\x7d/\x7bcase_\x7bcase_id\x7d\x7bcase_id\x7did\x7d").urlFor := by
  have accepted : TimelineSettings.checkPath
      "/\x7b\x7bcase_id\x7d\x7d/\x7bcase_\x7bcase_id\x7d\x7bcase_id\x7did\x7d" = .ok () :=
    TimelineSettings.checkPath_ok.2 ⟨String.startsWith_string_iff.2 (by decide), by decide⟩
  exact ⟨accepted, urlFor_injective .order "https://orders.example//" accepted⟩

end Casebook.Feed
