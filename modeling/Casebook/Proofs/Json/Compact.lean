import Casebook.Proofs.Json.Reading

/-!
# Compact documents

A text is compact if no blank stands outside the quoted texts in it. Printed documents are: all that the
printer writes outside of quotes are marks, words and digits, and what it writes inside is escaped so
that the quotes close where they should.
-/

namespace Casebook.Json

/-- Where a scan of a document stands, as far as quotes tell. -/
inductive Place where
  | outside
  | inside
  /-- Inside, behind a backslash. -/
  | escaped
  deriving DecidableEq

def isBlankMark (c : Char) : Bool :=
  c = ' ' || c = '\n' || c = '\t' || c = '\r'

/-- The place behind one more character; there is none behind a blank outside of quotes. -/
def Place.next? : Place → Char → Option Place
  | .outside, c => if c = '"' then some .inside else if isBlankMark c then none else some .outside
  | .inside, c =>
    if c = '"' then some .outside else if c = '\\' then some .escaped else some .inside
  | .escaped, _ => some .inside

/-- No blank stands outside of quotes, and all quotes are closed. -/
def IsCompact (s : String) : Prop :=
  s.toList.foldlM Place.next? .outside = some .outside

instance (s : String) : Decidable (IsCompact s) :=
  inferInstanceAs (Decidable (_ = _))

/-- A piece of text that a scan passes from one place to another. -/
def Leads (a : Place) (cs : List Char) (b : Place) : Prop :=
  cs.foldlM Place.next? a = some b

theorem Leads.append {a b c : Place} {cs ds : List Char} (h : Leads a cs b) (h' : Leads b ds c) :
    Leads a (cs ++ ds) c := by
  rw [Leads, List.foldlM_append, h]
  exact h'

theorem Leads.cons {a b c : Place} {x : Char} {cs : List Char} (first : a.next? x = some b)
    (rest : Leads b cs c) : Leads a (x :: cs) c := by
  rw [Leads, List.foldlM_cons, first]
  exact rest

theorem leads_nil (a : Place) : Leads a [] a := rfl

theorem leads_of_plain {cs : List Char} (plain : ∀ c ∈ cs, c ≠ '"' ∧ isBlankMark c = false) :
    Leads .outside cs .outside := by
  induction cs with
  | nil => exact leads_nil .outside
  | cons c cs ih =>
    obtain ⟨⟨quote, blank⟩, rest⟩ := List.forall_mem_cons.1 plain
    refine Leads.cons ?_ (ih rest)
    rw [Place.next?, if_neg quote, if_neg (Bool.eq_false_iff.1 blank)]

/-! ### Quoted texts -/

theorem leads_escapeChar (c : Char) : Leads .inside (escapeChar c) .inside := by
  rw [escapeChar]
  -- Every escape is a backslash, one character, and perhaps digits.
  have digit : ∀ n, Place.inside.next? (hexDigit n) = some .inside := by
    intro n
    have small : n % 16 < 16 := Nat.mod_lt n (by decide)
    rw [hexDigit]
    generalize n % 16 = d at small
    decide +revert
  split
  · rfl
  split
  · rfl
  iterate 5
    split
    · rfl
  split
  · exact .cons rfl (.cons rfl (.cons rfl (.cons rfl (.cons (digit _) (.cons (digit _) (leads_nil _))))))
  · next quote backslash _ _ _ _ _ _ =>
    refine .cons ?_ (leads_nil .inside)
    rw [Place.next?, if_neg quote, if_neg backslash]

theorem leads_printText (s : String) : Leads .outside (printText s) .outside := by
  have content : Leads .inside (s.toList.flatMap escapeChar) .inside := by
    induction s.toList with
    | nil => exact leads_nil .inside
    | cons c cs ih =>
      rw [List.flatMap_cons]
      exact (leads_escapeChar c).append ih
  exact Leads.append (Leads.cons rfl content) (.cons rfl (leads_nil .outside))

/-! ### Values -/

theorem leads_digits (n : Nat) : Leads .outside (Decimal.digits n) .outside := by
  refine leads_of_plain fun c hc => ?_
  have bounds := toNat_bounds_of_isDigit (Decimal.isDigit_of_mem_digits hc)
  constructor
  · rintro rfl
    simp at bounds
  · rw [isBlankMark, Bool.eq_false_iff]
    intro blank
    simp only [Bool.or_eq_true, decide_eq_true_eq] at blank
    rcases blank with ((rfl | rfl) | rfl) | rfl <;> simp at bounds

theorem leads_printInt (n : Int) : Leads .outside (printInt n) .outside := by
  rw [printInt]
  split
  · exact .cons rfl (leads_digits _)
  · exact leads_digits _

theorem leads_printItems {items : List Json} (all : ∀ v ∈ items, Leads .outside (print v) .outside) :
    Leads .outside (printItems items) .outside := by
  match items with
  | [] => exact leads_nil .outside
  | [v] => exact all v List.mem_cons_self
  | v :: w :: r =>
    obtain ⟨first, rest⟩ := List.forall_mem_cons.1 all
    exact first.append (.cons rfl (leads_printItems rest))

theorem leads_printMembers {ms : List (String × Json)}
    (all : ∀ m ∈ ms, Leads .outside (print m.2) .outside) :
    Leads .outside (printMembers ms) .outside := by
  match ms with
  | [] => exact leads_nil .outside
  | [(k, v)] => exact (leads_printText k).append (.cons rfl (all (k, v) List.mem_cons_self))
  | (k, v) :: m :: r =>
    obtain ⟨first, rest⟩ := List.forall_mem_cons.1 all
    exact ((leads_printText k).append (.cons rfl first)).append (.cons rfl (leads_printMembers rest))

theorem leads_print {v : Json} (whole : IsWhole v) : Leads .outside (print v) .outside := by
  induction whole with
  | null => rfl
  | bool b => cases b <;> rfl
  | int n => exact leads_printInt n
  | string s => exact leads_printText s
  | array _ ih => exact .append (.cons rfl (leads_printItems ih)) (.cons rfl (leads_nil .outside))
  | object _ ih => exact .append (.cons rfl (leads_printMembers ih)) (.cons rfl (leads_nil .outside))

theorem isCompact_text {v : Json} (whole : IsWhole v) : IsCompact v.text := by
  rw [IsCompact, text, String.toList_ofList]
  exact leads_print whole

end Casebook.Json
