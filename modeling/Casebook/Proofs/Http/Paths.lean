import Casebook.Fault
import Casebook.Http.Route
import Casebook.Proofs.Json.Text

/-!
# The paths of a case

A case id stands in a path as it is: it holds no mark between parts and no percent sign. So the path that
is written for a case is routed to the case, and the part that names it decodes to its id.
-/

namespace Casebook

namespace CaseId

/-- The legal characters are all in ASCII. -/
theorem lt_of_isLegalChar {c : Char} (h : isLegalChar c = true) : c.toNat < 0x80 := by
  have below : ∀ {last : Char}, c.val ≤ last.val → last.toNat < 0x80 → c.toNat < 0x80 :=
    fun le lt => Nat.lt_of_le_of_lt le lt
  simp only [isLegalChar, Bool.or_eq_true, decide_eq_true_eq] at h
  rcases h with ((letterOrDigit | rfl) | rfl) | rfl
  · rcases Bool.or_eq_true_iff.1 letterOrDigit with letter | digit
    · rcases Bool.or_eq_true_iff.1 letter with upper | lower
      · have le : c.val ≤ 'Z'.val := (of_decide_eq_true upper).2
        exact below le (by decide)
      · have le : c.val ≤ 'z'.val := of_decide_eq_true (Bool.and_eq_true_iff.1 lower).2
        exact below le (by decide)
    · have le : c.val ≤ '9'.val := of_decide_eq_true (Bool.and_eq_true_iff.1 digit).2
      exact below le (by decide)
  · decide
  · decide
  · decide

theorem isSlash_of_mem {c : CaseId} : ∀ d ∈ c.text.toList, decide (d = '/') = false := by
  intro d hd
  refine decide_eq_false ?_
  rintro rfl
  exact absurd (c.isLegal.2.2 _ hd) (by decide)

end CaseId

namespace Http

theorem percent_not_mem (c : CaseId) : Text.percent ∉ Bytes.ofText c.text := by
  rw [← Bytes.ofChars_toList]
  intro h
  obtain ⟨d, hd, hb⟩ := List.mem_flatMap.1 h
  have legal := c.isLegal.2.2 d hd
  have ascii := CaseId.lt_of_isLegalChar legal
  rw [Json.encode_of_lt ascii, List.mem_singleton] at hb
  have sign : d = '%' := by
    have value := Json.ofNat_byte (c := d) (by omega)
    rw [← hb] at value
    exact value.symm
  rw [sign] at legal
  exact absurd legal (by decide)

theorem decodePart?_text (c : CaseId) : decodePart? c.text = some c.text := by
  rw [decodePart?, Text.percentDecode_of_not_mem (percent_not_mem c), Bytes.toText?_ofText]

theorem ofInput_text (c : CaseId) : CaseId.ofInput c.text = .ok c := by
  rw [CaseId.ofInput, CaseId.parse_text]
  rfl

/-! ### Routes -/

theorem cut_case (c : CaseId) : Text.cut '/' ("/support/cases/" ++ c.text) =
    ["", "support", "cases", c.text] := by
  have path : ("/support/cases/" ++ c.text).toList =
      [] ++ '/' :: ("support".toList ++ '/' :: ("cases".toList ++ '/' :: c.text.toList)) := by
    rw [String.toList_append]
    rfl
  rw [Text.cut, path, Text.parts_append (by simp) (by decide),
    Text.parts_append (by simp) (by decide),
    Text.parts_append (by simp) (by decide), Text.parts_of_forall CaseId.isSlash_of_mem]
  simp

theorem cut_case_append (c : CaseId) (r : List Char) :
    Text.cut '/' ("/support/cases/" ++ c.text ++ String.ofList ('/' :: r)) =
      ["", "support", "cases", c.text] ++ Text.cut '/' (String.ofList r) := by
  have path : ("/support/cases/" ++ c.text ++ String.ofList ('/' :: r)).toList =
      [] ++ '/' :: ("support".toList ++ '/' :: ("cases".toList ++ '/' ::
        (c.text.toList ++ '/' :: r))) := by
    rw [String.toList_append, String.toList_append, String.toList_ofList]
    simp
  rw [Text.cut, path, Text.parts_append (by simp) (by decide),
    Text.parts_append (by simp) (by decide),
    Text.parts_append (by simp) (by decide),
    Text.parts_append CaseId.isSlash_of_mem (by decide), Text.cut, String.toList_ofList]
  simp

theorem ofPath?_caseView (c : CaseId) :
    Route.ofPath? ("/support/cases/" ++ c.text) = some (.caseView c.text) := by
  rw [Route.ofPath?, cut_case, Route.ofParts?, if_neg c.isLegal.1]

theorem ofPath?_timeline (c : CaseId) :
    Route.ofPath? ("/support/cases/" ++ c.text ++ "/timeline") = some (.timeline c.text) := by
  have rest : Text.cut '/' (String.ofList "timeline".toList) = ["timeline"] := by decide +kernel
  have parts := cut_case_append c "timeline".toList
  rw [rest] at parts
  have path : "/timeline" = String.ofList ('/' :: "timeline".toList) := rfl
  rw [Route.ofPath?, path, parts, List.cons_append, List.cons_append, List.cons_append,
    List.cons_append, List.nil_append, Route.ofParts?, if_neg c.isLegal.1]

theorem ofPath?_refresh (c : CaseId) :
    Route.ofPath? ("/support/cases/" ++ c.text ++ "/timeline/refresh") = some (.refresh c.text) := by
  have rest : Text.cut '/' (String.ofList "timeline/refresh".toList) = ["timeline", "refresh"] := by
    decide +kernel
  have parts := cut_case_append c "timeline/refresh".toList
  rw [rest] at parts
  have path : "/timeline/refresh" = String.ofList ('/' :: "timeline/refresh".toList) := rfl
  rw [Route.ofPath?, path, parts, List.cons_append, List.cons_append, List.cons_append,
    List.cons_append, List.nil_append, Route.ofParts?, if_neg c.isLegal.1]

end Http
end Casebook
