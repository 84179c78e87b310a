import Casebook.Json.Reader
import Mathlib.Data.List.TakeWhile

/-!
# Where reading stops

A reader takes bytes from the front of its input and leaves the rest, so what lies behind a stop is the
end of the input. Texts and numbers stand on one line: the line of a stop is told by the bytes between
them.
-/

namespace Casebook.Json

/-- The bytes that a result takes are at the front of the input and have a property; a stop is somewhere
in the input. -/
def Takes {α : Type} (P : UInt8 → Prop) (bs : Bytes) : Except Stop (α × Bytes) → Prop
  | .ok (_, r) => ∃ taken, bs = taken ++ r ∧ ∀ b ∈ taken, P b
  | .error stop => stop <:+ bs

section
variable {α β : Type} {P Q : UInt8 → Prop} {bs : Bytes} {x : Except Stop (α × Bytes)}

theorem takes_none (a : α) (bs : Bytes) : Takes P bs (.ok (a, bs)) :=
  ⟨[], rfl, fun _ h => (nomatch h)⟩

theorem Takes.append {taken : Bytes} (ht : ∀ b ∈ taken, P b) (h : Takes P bs x) :
    Takes P (taken ++ bs) x := by
  rcases x with stop | ⟨a, r⟩
  · exact h.trans (List.suffix_append taken bs)
  · obtain ⟨more, rfl, hm⟩ := h
    exact ⟨taken ++ more, (List.append_assoc ..).symm, List.forall_mem_append.2 ⟨ht, hm⟩⟩

theorem Takes.cons {b : UInt8} (hb : P b) (h : Takes P bs x) : Takes P (b :: bs) x := by
  have single : ∀ c ∈ [b], P c := List.forall_mem_singleton.2 hb
  exact h.append single

theorem Takes.after {b : β} {r : Bytes} (first : Takes P bs (.ok (b, r))) (h : Takes P r x) :
    Takes P bs x := by
  obtain ⟨taken, rfl, ht⟩ := first
  exact h.append ht

theorem Takes.bind {f : α × Bytes → Except Stop (β × Bytes)} (hx : Takes P bs x)
    (hf : ∀ a r, Takes P r (f (a, r))) : Takes P bs (x >>= f) := by
  rcases x with stop | ⟨a, r⟩
  · exact hx
  · exact hx.after (hf a r)

theorem takes_ite {c : Prop} [Decidable c] {y : Except Stop (α × Bytes)} (hx : c → Takes P bs x)
    (hy : ¬c → Takes P bs y) : Takes P bs (if c then x else y) := by
  by_cases h : c
  · rw [if_pos h]
    exact hx h
  · rw [if_neg h]
    exact hy h

theorem Takes.mono (imp : ∀ b, P b → Q b) (h : Takes P bs x) : Takes Q bs x := by
  rcases x with stop | ⟨a, r⟩
  · exact h
  · obtain ⟨taken, same, ht⟩ := h
    exact ⟨taken, same, fun b hb => imp b (ht b hb)⟩

end

/-! ### Tokens -/

def OnLine (b : UInt8) : Prop := b ≠ 0x0a

instance : DecidablePred OnLine := fun b => inferInstanceAs (Decidable (b ≠ 0x0a))

theorem onLine_of_isDigitByte {b : UInt8} (h : isDigitByte b = true) : OnLine b := by
  rintro rfl
  exact absurd h (by decide)

theorem onLine_of_hexValue? {b : UInt8} {n : Nat} (h : hexValue? b = some n) : OnLine b := by
  rintro rfl
  have none : hexValue? 0x0a = none := by decide
  cases none.symm.trans h

theorem onLine_of_not_lt {b : UInt8} (h : ¬b < 0x20) : OnLine b := by
  rintro rfl
  exact absurd (by decide) h

theorem takes_digits (bs : Bytes) : Takes OnLine bs (.ok (takeDigits bs)) :=
  ⟨bs.takeWhile isDigitByte, List.takeWhile_append_dropWhile.symm, fun _ hb =>
    onLine_of_isDigitByte (List.mem_takeWhile_imp hb)⟩

theorem takes_sign (bs : Bytes) : Takes OnLine bs (.ok (takeSign bs)) := by
  cases bs with
  | nil => exact takes_none _ _
  | cons b bs =>
    rw [takeSign]
    split
    next minus => exact (takes_none _ _).cons (by rw [minus]; decide)
    next =>
      split
      next plus => exact (takes_none _ _).cons (by rw [plus]; decide)
      next => exact takes_none _ _

theorem takes_part (bs : Bytes) : Takes OnLine bs (takePart bs) := by
  cases bs with
  | nil => exact takes_none _ _
  | cons b bs =>
    rw [takePart]
    split
    next point =>
      refine Takes.cons (by rw [point]; decide) ?_
      split
      next digits => exact (digits ▸ takes_digits bs).after (List.tail_suffix _)
      next _ digits => exact (digits ▸ takes_digits bs).after (takes_none _ _)
    next => exact takes_none _ _

theorem takes_exponent (bs : Bytes) : Takes OnLine bs (takeExponent bs) := by
  cases bs with
  | nil => exact takes_none _ _
  | cons b bs =>
    rw [takeExponent]
    split
    next mark =>
      have onLine : OnLine b := by
        rw [Bool.or_eq_true, decide_eq_true_iff, decide_eq_true_iff] at mark
        rcases mark with rfl | rfl <;> decide
      refine Takes.cons onLine ?_
      split
      next negative r sign =>
        refine (sign ▸ takes_sign bs).after ?_
        split
        next digits => exact (digits ▸ takes_digits r).after (List.tail_suffix _)
        next _ digits => exact (digits ▸ takes_digits r).after (takes_none _ _)
    next => exact takes_none _ _

theorem takes_whole (bs : Bytes) : Takes OnLine bs (takeWhole bs) := by
  rcases bs with _ | ⟨b, bs⟩
  · exact List.suffix_rfl
  rw [takeWhole.eq_def]
  dsimp only
  split
  next zero =>
    refine Takes.cons (by rw [zero]; decide) ?_
    rcases bs with _ | ⟨d, r⟩
    · exact takes_none _ _
    dsimp only
    split
    · exact List.suffix_cons d r
    · exact takes_none _ _
  next =>
    split
    · exact takes_digits (b :: bs)
    · exact List.suffix_cons b bs

theorem takes_number (rigor : Rigor) (negative : Bool) (bs : Bytes) :
    Takes OnLine bs (number rigor negative bs) := by
  rw [number]
  refine (takes_whole bs).bind fun whole bs => ?_
  refine (takes_part bs).bind fun part bs => ?_
  refine (takes_exponent bs).bind fun exponent bs => ?_
  dsimp only
  split
  · exact takes_none _ _
  · exact List.suffix_rfl
  · exact takes_none _ _

theorem takes_hex (bs : Bytes) : Takes OnLine bs (takeHex bs) := by
  rw [takeHex.eq_def]
  split
  next a b c d r =>
    split
    next ha hb hc hd =>
      exact ((((takes_none _ r).cons (onLine_of_hexValue? hd)).cons (onLine_of_hexValue? hc)).cons
        (onLine_of_hexValue? hb)).cons (onLine_of_hexValue? ha)
    next => exact ⟨[a, b, c, d], rfl⟩
  next => exact List.nil_suffix

theorem takes_lowHalf (high : Nat) (bs : Bytes) : Takes OnLine bs (takeLowHalf high bs) := by
  rcases bs with _ | ⟨b, bs⟩
  · exact List.suffix_rfl
  rw [takeLowHalf.eq_def]
  dsimp only
  split
  next => exact List.suffix_cons b bs
  next slash =>
    refine Takes.cons (by rw [not_not.1 slash]; decide) ?_
    rcases bs with _ | ⟨u, bs⟩
    · exact List.suffix_rfl
    dsimp only
    split
    next => exact List.suffix_cons u bs
    next letter =>
      refine Takes.cons (by rw [not_not.1 letter]; decide) ((takes_hex bs).bind fun low r => ?_)
      dsimp only
      split
      · exact takes_none _ _
      · exact List.suffix_rfl

theorem takes_code (rigor : Rigor) (bs : Bytes) : Takes OnLine bs (takeCode rigor bs) := by
  refine (takes_hex bs).bind fun n r => ?_
  dsimp only
  split
  · have low := takes_lowHalf n r
    split
    next half => exact half ▸ low
    next half => exact (half ▸ low : Takes OnLine r (.error _ : Except Stop (Option Bytes × Bytes)))
    next => exact takes_none _ _
  · split
    · split
      · exact List.suffix_rfl
      · exact takes_none _ _
    · exact takes_none _ _

theorem takes_escape (rigor : Rigor) (bs : Bytes) : Takes OnLine bs (takeEscape rigor bs) := by
  rcases bs with _ | ⟨b, bs⟩
  · exact List.suffix_rfl
  rw [takeEscape]
  have plain (c : Char) (piece : Bytes) (shown : OnLine (byte c)) (same : b = byte c) :
      Takes OnLine (b :: bs) (.ok (some piece, bs)) :=
    (takes_none _ _).cons (same ▸ shown)
  refine takes_ite (fun same => ?_) fun _ => ?_
  · rw [Bool.or_eq_true, Bool.or_eq_true, decide_eq_true_iff, decide_eq_true_iff,
      decide_eq_true_iff] at same
    rcases same with (same | same) | same
    · exact plain '"' _ (by decide) same
    · exact plain '\\' _ (by decide) same
    · exact plain '/' _ (by decide) same
  refine takes_ite (plain 'b' _ (by decide)) fun _ => ?_
  refine takes_ite (plain 'f' _ (by decide)) fun _ => ?_
  refine takes_ite (plain 'n' _ (by decide)) fun _ => ?_
  refine takes_ite (plain 'r' _ (by decide)) fun _ => ?_
  refine takes_ite (plain 't' _ (by decide)) fun _ => ?_
  exact takes_ite (fun same => (takes_code rigor bs).cons (by rw [same]; decide))
    fun _ => List.suffix_cons b bs

theorem takes_content (rigor : Rigor) (fuel : Nat) (acc : Option Bytes) (bs : Bytes) :
    Takes OnLine bs (takeText rigor fuel acc bs) := by
  induction fuel generalizing acc bs with
  | zero => exact List.suffix_rfl
  | succ fuel ih =>
    rcases bs with _ | ⟨b, bs⟩
    · exact List.suffix_rfl
    rw [takeText]
    split
    next quote => exact (takes_none _ _).cons (by rw [quote]; decide)
    split
    next slash =>
      refine Takes.cons (by rw [slash]; decide) ((takes_escape rigor bs).bind fun piece r => ?_)
      exact ih _ r
    split
    -- A line end is among the bytes at which a text stops.
    next => exact List.suffix_cons b bs
    next shown => exact (ih _ bs).cons (onLine_of_not_lt shown)

theorem takes_text (rigor : Rigor) (fuel : Nat) (bs : Bytes) :
    Takes OnLine bs (readText rigor fuel bs) := by
  refine (takes_content rigor fuel (some []) bs).bind fun content r => ?_
  dsimp only
  split
  · exact takes_none _ _
  · exact List.suffix_rfl
  · exact takes_none _ _

/-! ### Values -/

def Anywhere (_ : UInt8) : Prop := True

theorem Takes.anywhere {α : Type} {P : UInt8 → Prop} {bs : Bytes} {x : Except Stop (α × Bytes)}
    (h : Takes P bs x) : Takes Anywhere bs x :=
  h.mono fun _ _ => trivial

theorem takes_word (v : Json) (cs : List Char) (bs : Bytes) : Takes Anywhere bs (word v cs bs) := by
  induction cs generalizing bs with
  | nil => exact takes_none v bs
  | cons c cs ih =>
    cases bs with
    | nil => exact List.suffix_rfl
    | cons b bs =>
      rw [word]
      split
      · exact (ih bs).cons trivial
      · exact List.suffix_cons b bs

theorem takes_skip {α : Type} {bs : Bytes} {x : Except Stop (α × Bytes)}
    (h : Takes Anywhere (skip bs) x) : Takes Anywhere bs x := by
  have split : bs.takeWhile isSpace ++ skip bs = bs := List.takeWhile_append_dropWhile
  rw [← split]
  exact h.append fun _ _ => trivial

theorem takes_next {α : Type} {bs : Bytes} {c : UInt8} {r : Bytes} {x : Except Stop (α × Bytes)}
    (next : skip bs = c :: r) (h : Takes Anywhere r x) : Takes Anywhere bs x :=
  takes_skip (next ▸ h.cons trivial)

section
variable {rigor : Rigor} {fuel : Nat}

/-- Whether the three readers of values take what they read from the front, with this much fuel. -/
structure TakesFront (rigor : Rigor) (fuel : Nat) : Prop where
  value : ∀ room bs, Takes Anywhere bs (value rigor fuel room bs)
  items : ∀ room bs, Takes Anywhere bs (items rigor fuel room bs)
  members : ∀ room bs, Takes Anywhere bs (members rigor fuel room bs)

theorem takes_value (front : TakesFront rigor fuel) (room : Nat) (bs : Bytes) :
    Takes Anywhere bs (value rigor (fuel + 1) room bs) := by
  rw [value]
  rcases first : skip bs with _ | ⟨b, r⟩
  · exact List.nil_suffix
  have behind : r <:+ b :: r := List.suffix_cons b r
  refine takes_skip ?_
  rw [first]
  refine takes_ite (fun _ => (takes_word _ _ r).cons trivial) fun _ => ?_
  refine takes_ite (fun _ => (takes_word _ _ r).cons trivial) fun _ => ?_
  refine takes_ite (fun _ => (takes_word _ _ r).cons trivial) fun _ => ?_
  refine takes_ite (fun _ => (takes_number _ _ r).anywhere.cons trivial) fun _ => ?_
  refine takes_ite (fun _ => (takes_number _ _ _).anywhere) fun _ => ?_
  refine takes_ite (fun _ => ?text) fun _ => takes_ite (fun _ => ?array) fun _ =>
    takes_ite (fun _ => ?object) fun _ => behind
  case text =>
    refine Takes.cons trivial ((takes_text _ _ r).anywhere.bind fun _ _ => ?_)
    exact takes_none _ _
  case array =>
    refine takes_ite (fun _ => behind) fun _ => ?_
    rcases second : skip r with _ | ⟨c, r'⟩
    · exact List.nil_suffix
    refine Takes.cons trivial (takes_skip ?_)
    rw [second]
    exact takes_ite (fun _ => (takes_none _ _).cons trivial) fun _ =>
      (front.items _ _).bind fun _ _ => takes_none _ _
  case object =>
    refine takes_ite (fun _ => behind) fun _ => ?_
    rcases second : skip r with _ | ⟨c, r'⟩
    · exact List.nil_suffix
    refine Takes.cons trivial (takes_skip ?_)
    rw [second]
    exact takes_ite (fun _ => (takes_none _ _).cons trivial) fun _ =>
      (front.members _ _).bind fun _ _ => takes_none _ _

theorem takes_items (front : TakesFront rigor fuel) (room : Nat) (bs : Bytes) :
    Takes Anywhere bs (items rigor (fuel + 1) room bs) := by
  rw [items]
  refine (front.value room bs).bind fun v r => ?_
  dsimp only
  rcases second : skip r with _ | ⟨c, r'⟩
  · exact List.nil_suffix
  refine takes_next second ?_
  exact takes_ite (fun _ => takes_none _ _) fun _ => takes_ite
    (fun _ => (front.items room r').bind fun _ _ => takes_none _ _) fun _ => List.suffix_rfl

theorem takes_members (front : TakesFront rigor fuel) (room : Nat) (bs : Bytes) :
    Takes Anywhere bs (members rigor (fuel + 1) room bs) := by
  rw [members]
  rcases first : skip bs with _ | ⟨q, r⟩
  · exact List.nil_suffix
  refine takes_next first (takes_ite (fun _ => List.suffix_rfl) fun _ => ?_)
  refine (takes_text _ _ r).anywhere.bind fun k r => ?_
  dsimp only
  rcases second : skip r with _ | ⟨c, r'⟩
  · exact List.nil_suffix
  refine takes_next second (takes_ite (fun _ => List.suffix_rfl) fun _ => ?_)
  refine (front.value room r').bind fun v r => ?_
  dsimp only
  rcases third : skip r with _ | ⟨c, r''⟩
  · exact List.nil_suffix
  refine takes_next third ?_
  exact takes_ite (fun _ => takes_none _ _) fun _ => takes_ite
    (fun _ => (front.members room r'').bind fun _ _ => takes_none _ _) fun _ => List.suffix_rfl

theorem takesFront (rigor : Rigor) (fuel : Nat) : TakesFront rigor fuel := by
  -- The three call each other with less fuel, so they go together.
  induction fuel with
  | zero =>
    constructor
    all_goals exact fun _ _ => List.suffix_rfl
  | succ fuel ih => exact ⟨takes_value ih, takes_items ih, takes_members ih⟩

end

/-! ### Documents -/

theorem suffix_of_document {rigor : Rigor} {bs : Bytes} {stop : Stop}
    (h : document rigor bs = .error stop) : stop <:+ bs := by
  have front := (takesFront rigor (2 * bs.length + 2)).value maxDepth bs
  rw [document] at h
  rcases read : value rigor (2 * bs.length + 2) maxDepth bs with stop' | ⟨v, r⟩
  · rw [read] at h front
    cases h
    exact front
  rw [read] at h front
  obtain ⟨taken, same, -⟩ := front
  -- A value was read, and what follows the blanks behind it is too much.
  have rest : r <:+ bs := ⟨taken, same.symm⟩
  have skipped : skip r <:+ r := List.dropWhile_suffix isSpace
  rcases left : skip r with _ | ⟨b, r'⟩
  · simp only [bind, Except.bind, left] at h
    cases h
  · simp only [bind, Except.bind, left] at h
    cases h
    rw [left] at skipped
    exact ((List.suffix_cons b _).trans skipped).trans rest

/-- What is read of a body up to its stop, including the byte at which reading stops. -/
def StopsBehind (body before : Bytes) : Prop :=
  ∃ stop, document .full body = .error stop ∧ body = before ++ stop

theorem read_eq_error_iff {body : Bytes} {line : Nat} : read body = .error line ↔
    ∃ before, StopsBehind body before ∧ line = 1 + before.count 0x0a := by
  have lines {before : Bytes} {stop : Stop} (split : body = before ++ stop) :
      lineOf body stop = 1 + before.count 0x0a := by
    rw [lineOf, split, List.count_append, Nat.add_sub_cancel]
  constructor
  · intro h
    rcases stopped : document .full body with stop | v
    · rw [read, stopped] at h
      cases h
      obtain ⟨before, split⟩ := suffix_of_document stopped
      exact ⟨before, ⟨stop, stopped, split.symm⟩, lines split.symm⟩
    · rw [read, stopped] at h
      cases h
  · rintro ⟨before, ⟨stop, stopped, split⟩, rfl⟩
    rw [read, stopped, ← lines split]
    rfl

/-! ### Respelled inputs -/

/-- What stands behind the opening quote of a text or behind the sign of a number. -/
def IsToken (t : Bytes) : Prop :=
  (∃ fuel content, takeText .full fuel (some []) t = .ok (content, [])) ∨
    ∃ negative v, number .full negative t = .ok (v, [])

/-- One input is the other but for parts of texts, names and numbers, which may also be of other
lengths. -/
inductive Respelled : Bytes → Bytes → Prop where
  | nil : Respelled [] []
  | same (b : UInt8) {bs cs : Bytes} (rest : Respelled bs cs) : Respelled (b :: bs) (b :: cs)
  | part {a x z a' x' z' bs cs : Bytes} (token : IsToken (a ++ x ++ z))
      (token' : IsToken (a' ++ x' ++ z')) (rest : Respelled bs cs) : Respelled (x ++ bs) (x' ++ cs)

theorem onLine_of_takes {α : Type} {bs : Bytes} {x : Except Stop (α × Bytes)} {a : α}
    (h : Takes OnLine bs x) (all : x = .ok (a, [])) : ∀ b ∈ bs, OnLine b := by
  rw [all] at h
  obtain ⟨taken, same, ht⟩ := h
  rw [List.append_nil] at same
  exact same ▸ ht

theorem onLine_of_isToken {t : Bytes} (h : IsToken t) : ∀ b ∈ t, OnLine b := by
  rcases h with ⟨fuel, content, all⟩ | ⟨negative, v, all⟩
  · exact onLine_of_takes (takes_content .full fuel (some []) t) all
  · exact onLine_of_takes (takes_number .full negative t) all

theorem count_of_part {a x z : Bytes} (h : IsToken (a ++ x ++ z)) : x.count 0x0a = 0 := by
  refine List.count_eq_zero.2 fun lineEnd => ?_
  have member : (0x0a : UInt8) ∈ a ++ x ++ z :=
    List.mem_append_left z (List.mem_append_right a lineEnd)
  exact onLine_of_isToken h _ member rfl

theorem Respelled.count_eq {bs cs : Bytes} (h : Respelled bs cs) :
    bs.count 0x0a = cs.count 0x0a := by
  induction h with
  | nil => rfl
  | same b _ ih => rw [List.count_cons, List.count_cons, ih]
  | part token token' _ ih =>
    rw [List.count_append, List.count_append, count_of_part token, count_of_part token', ih]

end Casebook.Json
