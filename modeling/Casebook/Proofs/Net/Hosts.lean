import Casebook.Net.Url
import Casebook.Proofs.Decimal.Digits
import Casebook.Proofs.Net.Dots

/-!
# What hosts are written with

Whatever is read as the host of an address, with its user and its port, is written without the characters
that end a host: numbers have digits, labels hold nothing forbidden, and the user is written with percent
signs. So what stands behind the written host is where the path begins.
-/

namespace Casebook.Net

/-- Whether nothing in a text ends a host. -/
def InHost (s : List Char) : Prop := ∀ c ∈ s, endsHost c = false

theorem inHost_of_all {s : List Char} (h : s.all (!endsHost ·) = true) : InHost s :=
  Text.forall_of_all h

theorem endsHost_of {p : Char → Bool} (slash : p '/' = false) (question : p '?' = false)
    (number_sign : p '#' = false) {c : Char} (h : p c = true) : endsHost c = false := by
  cases hc : endsHost c with
  | false => rfl
  | true =>
    simp only [endsHost, endsPath, Bool.or_eq_true, decide_eq_true_eq] at hc
    rcases hc with rfl | rfl | rfl <;> simp_all

theorem inHost_nil : InHost [] := fun _ hc => (nomatch hc)

theorem InHost.append {a b : List Char} (ha : InHost a) (hb : InHost b) : InHost (a ++ b) :=
  fun c hc => (List.mem_append.1 hc).elim (ha c) (hb c)

theorem forall_mem_intercalate {P : Char → Prop} {sep : List Char} {ss : List (List Char)}
    (h : ∀ c ∈ sep, P c) (hs : ∀ s ∈ ss, ∀ c ∈ s, P c) : ∀ c ∈ sep.intercalate ss, P c := by
  induction ss with
  | nil => exact fun c hc => (nomatch hc)
  | cons s ss ih =>
    rw [List.forall_mem_cons] at hs
    cases ss with
    | nil =>
      rw [List.intercalate_singleton]
      exact hs.1
    | cons t ts =>
      rw [List.intercalate_cons_cons, List.forall_mem_append, List.forall_mem_append]
      exact ⟨⟨hs.1, h⟩, ih hs.2⟩

theorem InHost.intercalate {sep : List Char} {ss : List (List Char)} (h : InHost sep)
    (hs : ∀ s ∈ ss, InHost s) : InHost (sep.intercalate ss) :=
  forall_mem_intercalate h hs

theorem InHost.intercalate_texts {α : Type} {sep : String} {text : α → String} (h : InHost sep.toList)
    (ht : ∀ a, InHost (text a).toList) (as : List α) :
    InHost (sep.intercalate (as.map text)).toList := by
  rw [String.toList_intercalate, List.map_map]
  refine h.intercalate fun s hs => ?_
  obtain ⟨a, _, rfl⟩ := List.mem_map.1 hs
  exact ht a

/-! ### Numbers -/

theorem inHost_digits (n : Nat) : InHost (Decimal.digits n) := fun _ hc =>
  endsHost_of (by decide) (by decide) (by decide) (Decimal.isDigit_of_mem_digits hc)

theorem inHost_natText (n : Nat) : InHost (Decimal.natText n).toList := by
  rw [Decimal.natText, String.toList_ofList]
  exact inHost_digits n

theorem endsHost_digitChar {n : Nat} (h : n < 16) : endsHost n.digitChar = false := by
  have all : ∀ m : Fin 16, endsHost (Nat.digitChar m.val) = false := by decide
  exact all ⟨n, h⟩

theorem inHost_hex (n : Nat) : InHost (Nat.toDigits 16 n) := by
  induction n using Nat.strongRecOn with
  | ind n ih =>
    by_cases h : n < 16
    · rw [Nat.toDigits_of_lt_base h]
      intro c hc
      rw [List.mem_singleton.1 hc]
      exact endsHost_digitChar h
    · rw [Nat.toDigits_of_base_le (by decide) (by omega)]
      refine (ih (n / 16) (by omega)).append fun c hc => ?_
      rw [List.mem_singleton.1 hc]
      exact endsHost_digitChar (Nat.mod_lt _ (by decide))

theorem inHost_dotted (bytes : List Nat) : InHost (Address.dotted bytes).toList :=
  InHost.intercalate_texts (inHost_of_all (by decide)) inHost_natText bytes

theorem inHost_coloned (groups : List Nat) : InHost (Address.coloned groups).toList := by
  refine InHost.intercalate_texts (inHost_of_all (by decide)) (fun g => ?_) groups
  rw [String.toList_ofList]
  exact inHost_hex g

theorem inHost_sixText (groups : List Nat) : InHost (Address.sixText groups).toList := by
  unfold Address.sixText
  split
  · rw [String.toList_append]
    exact InHost.append (inHost_of_all (by decide)) (inHost_dotted _)
  · simp only
    split
    · exact inHost_coloned groups
    · rw [String.toList_append, String.toList_append]
      exact ((inHost_coloned _).append (inHost_of_all (by decide))).append (inHost_coloned _)

/-! ### Labels -/

namespace Punycode

theorem inHost_digits (bias place n : Nat) : InHost (digits bias place n) := by
  have written : ∀ m < base, endsHost (digit m) = false := by
    intro m hm
    refine endsHost_of (p := fun c => (digitValue? c).isSome) (by decide) (by decide) (by decide) ?_
    rw [digitValue?_digit hm]
    rfl
  fun_induction digits bias place n with
  | case1 place n t hn =>
    have bounds := threshold_bounds bias place
    intro c hc
    rw [List.mem_singleton.1 hc]
    exact written n (by simp only [base]; omega)
  | case2 place n t hn ih =>
    have bounds := threshold_bounds bias place
    have low := Nat.mod_lt (n - t) (show 0 < base - t by simp only [base]; omega)
    intro c hc
    rcases List.mem_cons.1 hc with rfl | behind
    · exact written _ (by simp only [base] at low ⊢; omega)
    · exact ih c behind

theorem Writing.inHost_pass {ascii n : Nat} {w : Writing} {c : Char} (h : InHost w.written) :
    InHost (w.pass ascii n c).written := by
  unfold pass
  split
  · exact h
  · split
    · exact h.append (inHost_digits _ _ _)
    · exact h

theorem Writing.inHost_placeAll {text : List Char} {ascii n : Nat} {ms : List Nat} {w : Writing}
    (h : InHost w.written) : InHost (placeAll text ascii ms n w).written := by
  induction ms generalizing n w with
  | nil => exact h
  | cons m ms ih =>
    have pass_all : ∀ (text : List Char) (w : Writing), InHost w.written →
        InHost (text.foldl (pass ascii m) w).written := by
      intro text
      induction text with
      | nil => exact fun _ h => h
      | cons c text ih => exact fun w h => ih _ (inHost_pass h)
    exact ih (pass_all text _ h)

theorem inHost_encode {label : List Char} (h : InHost label) : InHost (encode label) := by
  have ascii : InHost (label.filter isAscii) := fun c hc => h c (List.mem_filter.1 hc).1
  unfold encode
  refine InHost.append ?_ (Writing.inHost_placeAll inHost_nil)
  split
  · exact inHost_nil
  · exact ascii.append (inHost_of_all (by decide))

end Punycode

namespace Domain

theorem inHost_of_isUsable {label : List Char} (h : isUsable label = true) : InHost label := by
  intro c hc
  have allowed : ∀ c ∈ label, (!isForbidden c) = true := by
    simp only [isUsable, Bool.and_eq_true, List.all_eq_true] at h
    exact h.1.2
  exact endsHost_of (p := (!isForbidden ·)) (by decide) (by decide) (by decide) (allowed c hc)

theorem isUsable_of_labels? {name : List Char} {ls : List (List Char)} (h : labels? name = some ls) :
    ∀ l ∈ ls, isUsable l = true := by
  obtain ⟨images, _, h⟩ := Option.bind_eq_some_iff.1 h
  obtain ⟨labels, _, h⟩ := Option.bind_eq_some_iff.1 h
  split at h
  next usable =>
    cases h
    exact List.all_eq_true.1 (Bool.and_eq_true_iff.1 usable).1
  next => cases h

theorem inHost_writtenLabel? {label written : List Char} (h : InHost label)
    (hw : writtenLabel? label = some written) : InHost written := by
  unfold writtenLabel? at hw
  split at hw
  · cases hw
    exact h
  · split at hw
    · cases hw
    · cases hw
      exact InHost.append (inHost_of_all (by decide)) (Punycode.inHost_encode h)

theorem exists_of_mem_mapM {α β : Type} {f : α → Option β} {as : List α} {bs : List β}
    (h : as.mapM f = some bs) : ∀ b ∈ bs, ∃ a ∈ as, f a = some b := by
  induction as generalizing bs with
  | nil =>
    cases h
    exact fun b hb => (nomatch hb)
  | cons a as ih =>
    rw [List.mapM_cons] at h
    obtain ⟨b, hb, h⟩ := Option.bind_eq_some_iff.1 h
    obtain ⟨bs, hbs, h⟩ := Option.bind_eq_some_iff.1 h
    cases h
    rw [List.forall_mem_cons]
    refine ⟨⟨a, List.mem_cons_self, hb⟩, fun d hd => ?_⟩
    obtain ⟨e, he, hd⟩ := ih hbs d hd
    exact ⟨e, List.mem_cons_of_mem a he, hd⟩

theorem inHost_ascii? {name ascii : List Char} (h : ascii? name = some ascii) : InHost ascii := by
  obtain ⟨labels, hl, h⟩ := Option.bind_eq_some_iff.1 h
  obtain ⟨written, hw, h⟩ := Option.bind_eq_some_iff.1 h
  cases h
  refine InHost.intercalate (inHost_of_all (by decide)) fun s hs => ?_
  obtain ⟨label, hmem, hlabel⟩ := exists_of_mem_mapM hw s hs
  exact inHost_writtenLabel? (inHost_of_isUsable (isUsable_of_labels? hl label hmem)) hlabel

end Domain

/-! ### A host with its user and its port -/

namespace Host

theorem inHost_bracketed? {s : List Char} {host : String} (h : bracketed? s = some host) :
    InHost host.toList := by
  obtain ⟨⟨groups, r⟩, _, h⟩ := Option.bind_eq_some_iff.1 h
  simp only at h
  split at h
  next =>
    cases h
    have text : s!"[{Address.sixText groups}]".toList =
        ['['] ++ (Address.sixText groups).toList ++ [']'] := by
      simp [toString]
    have opened : InHost (['['] ++ (Address.sixText groups).toList) :=
      InHost.append (inHost_of_all (by decide)) (inHost_sixText groups)
    rw [text]
    exact opened.append (inHost_of_all (by decide))
  next => cases h

theorem inHost_web? {s : List Char} {host : String} (h : web? s = some host) :
    InHost host.toList := by
  unfold web? at h
  split at h
  · exact inHost_bracketed? h
  · obtain ⟨name, _, h⟩ := Option.bind_eq_some_iff.1 h
    obtain ⟨ascii, hascii, h⟩ := Option.bind_eq_some_iff.1 h
    split at h
    · cases h
    · split at h
      · obtain ⟨bytes, _, rfl⟩ := Option.map_eq_some_iff.1 h
        exact inHost_dotted bytes
      · cases h
        rw [String.toList_ofList]
        exact Domain.inHost_ascii? hascii

end Host

theorem inHost_percentByte (b : UInt8) : InHost (Text.percentByte b) := by
  have digit : ∀ n < 16, endsHost (Nat.digitChar n).toUpper = false := by
    intro n hn
    have all : ∀ m : Fin 16, endsHost (Nat.digitChar m.val).toUpper = false := by decide
    exact all ⟨n, hn⟩
  have small := b.toNat_lt
  intro c hc
  simp only [Text.percentByte, List.mem_cons, List.not_mem_nil, or_false] at hc
  rcases hc with rfl | rfl | rfl
  · decide
  · exact digit _ (by omega)
  · exact digit _ (Nat.mod_lt _ (by decide))

theorem mem_percentEncode {isSpecial : Char → Bool} {c : Char} {s : List Char}
    (h : c ∈ Text.percentEncode isSpecial s) :
    (c ∈ s ∧ isSpecial c = false) ∨ ∃ b, c ∈ Text.percentByte b := by
  obtain ⟨d, hd, h⟩ := List.mem_flatMap.1 h
  split at h
  next =>
    obtain ⟨b, _, hc⟩ := List.mem_flatMap.1 h
    exact .inr ⟨b, hc⟩
  next ordinary =>
    rw [List.mem_singleton] at h
    subst h
    refine .inl ⟨hd, ?_⟩
    simp only [Bool.or_eq_true, not_or, Bool.not_eq_true] at ordinary
    exact ordinary.2

theorem percentEncode_of_forall {isSpecial : Char → Bool} {s : List Char}
    (h : ∀ c ∈ s, (c.toNat < 32 || 126 < c.toNat || isSpecial c) = false) :
    Text.percentEncode isSpecial s = s := by
  induction s with
  | nil => rfl
  | cons c s ih =>
    rw [List.forall_mem_cons] at h
    rw [Text.percentEncode, List.flatMap_cons, h.1, if_neg Bool.false_ne_true, ← Text.percentEncode,
      ih h.2, List.singleton_append]

namespace Url

theorem inHost_encodedUser (s : List Char) : InHost (encoded isSpecialInUser s).toList := by
  rw [encoded, String.toList_ofList]
  intro c hc
  rcases mem_percentEncode hc with ⟨_, ordinary⟩ | ⟨b, hb⟩
  · exact endsHost_of (p := (!isSpecialInUser ·)) (by decide) (by decide) (by decide)
      (congrArg not ordinary)
  · exact inHost_percentByte b c hb

theorem inHost_userText (s : List Char) : InHost (userText s).toList := by
  unfold userText
  simp only
  split
  · exact inHost_nil
  · simp only [String.toList_append]
    refine ((inHost_encodedUser _).append ?_).append (inHost_of_all (by decide))
    split
    · exact inHost_nil
    · rw [String.toList_append]
      exact InHost.append (inHost_of_all (by decide)) (inHost_encodedUser _)

theorem inHost_portText? {f : Family} {s : List Char} {port : String} (h : f.portText? s = some port) :
    InHost port.toList := by
  unfold Family.portText? at h
  simp only at h
  split at h
  · cases h
  · split at h
    · cases h
      exact inHost_nil
    · cases h
      rw [String.toList_append]
      exact InHost.append (inHost_of_all (by decide)) (inHost_natText _)

theorem inHost_authority? {f : Family} (web : f ≠ .other) {s : List Char} {authority : String}
    (h : f.authority? s = some authority) : InHost authority.toList := by
  unfold Family.authority? at h
  simp only [web, decide_false, Bool.false_and, Bool.false_eq_true, if_false] at h
  obtain ⟨host, hhost, h⟩ := Option.bind_eq_some_iff.1 h
  obtain ⟨port, hport, h⟩ := Option.bind_eq_some_iff.1 h
  cases h
  rw [String.toList_append, String.toList_append]
  exact ((inHost_userText _).append (Host.inHost_web? hhost)).append (inHost_portText? hport)

end Url
end Casebook.Net
