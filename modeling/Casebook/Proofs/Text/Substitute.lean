import Casebook.Text.Parts
import Casebook.Text.Substitute

/-!
# What substitution does

Substitution goes through a text from the front: a mark there gives way to the value, any other first
character stays. A character that the mark does not hold separates what is in front of it from what is
behind, so a text may be cut there first and the values be put in the pieces.
-/

namespace Casebook.Text

theorem after?_eq_some_iff {m s r : List Char} : after? m s = some r ↔ s = m ++ r := by
  fun_induction after? m s with
  | case1 s => simp
  | case2 => simp
  | case3 m c s ih => simp [ih]
  | case4 c m d s h => simp [Ne.symm h]

theorem isSome_after?_iff {m s : List Char} : (after? m s).isSome = true ↔ m <+: s := by
  simp only [Option.isSome_iff_exists, after?_eq_some_iff, List.prefix_iff_exists_eq_append]

theorem occursIn_iff {m s : List Char} : occursIn m s = true ↔ m <:+: s := by
  induction s with
  | nil => rw [occursIn, List.isEmpty_iff, List.infix_nil]
  | cons c s ih => rw [occursIn, Bool.or_eq_true, isSome_after?_iff, ih, List.infix_cons_iff]

/-! ### One character at a time -/

section

variable {m : List Char}

/-- A text is empty, begins with a mark, or has another character in front. -/
@[elab_as_elim]
theorem mark_induction (hm : m ≠ []) {P : List Char → Prop} (nil : P [])
    (mark : ∀ s, P s → P (m ++ s)) (char : ∀ c s, ¬m <+: c :: s → P s → P (c :: s))
    (s : List Char) : P s := by
  -- A mark in front uses up several characters, so this goes by length and not by constructors.
  by_cases front : m <+: s
  · obtain ⟨r, rfl⟩ := front
    have shorter : r.length < (m ++ r).length := by
      rw [List.length_append]
      exact Nat.lt_add_of_pos_left (List.length_pos_iff.2 hm)
    exact mark r (mark_induction hm nil mark char r)
  · cases s with
    | nil => exact nil
    | cons c s => exact char c s front (mark_induction hm nil mark char s)
termination_by s.length

end

variable {m : List Char} (v : List Char)

theorem substituteFrom_eq (n : Nat) (s : List Char) :
    substituteFrom m v n s = substitute m v (s.drop n) := by
  induction s generalizing n with
  | nil => cases n <;> rfl
  | cons c s ih =>
    cases n with
    | zero => rfl
    | succ n => exact ih n

theorem substitute_mark (hm : m ≠ []) (s : List Char) :
    substitute m v (m ++ s) = v ++ substitute m v s := by
  cases m with
  | nil => exact absurd rfl hm
  | cons c m =>
    have found : after? (c :: m) (c :: (m ++ s)) = some s := after?_eq_some_iff.2 rfl
    rw [List.cons_append, substitute, substituteFrom, found]
    simp only
    rw [substituteFrom_eq, List.length_cons, Nat.add_sub_cancel, List.drop_left]

theorem substitute_cons {c : Char} {s : List Char} (h : ¬m <+: c :: s) :
    substitute m v (c :: s) = c :: substitute m v s := by
  have absent : after? m (c :: s) = none := by
    rw [← Option.not_isSome_iff_eq_none, isSome_after?_iff]
    exact h
  rw [substitute, substituteFrom, absent, substitute]

theorem substitute_of_absent {s : List Char} (h : ¬m <:+: s) : substitute m v s = s := by
  induction s with
  | nil => rfl
  | cons c s ih =>
    rw [List.infix_cons_iff, not_or] at h
    rw [substitute_cons v h.1, ih h.2]

theorem substitute_self (hm : m ≠ []) : substitute m v m = v := by
  have h := substitute_mark v hm []
  rwa [List.append_nil, show substitute m v [] = [] from rfl, List.append_nil] at h

theorem mem_of_mem_substituteFrom {c : Char} {n : Nat} {s : List Char}
    (h : c ∈ substituteFrom m v n s) : c ∈ v ∨ c ∈ s := by
  fun_induction substituteFrom m v n s with
  | case1 => exact .inr h
  | case2 n d s ih => exact (ih h).imp_right (List.mem_cons_of_mem d)
  | case3 d s _ _ ih =>
    rcases List.mem_append.1 h with value | behind
    · exact .inl value
    · exact (ih behind).imp_right (List.mem_cons_of_mem d)
  | case4 d s _ ih =>
    rcases List.mem_cons.1 h with rfl | behind
    · exact .inr List.mem_cons_self
    · exact (ih behind).imp_right (List.mem_cons_of_mem d)

theorem mem_of_mem_substitute {c : Char} {s : List Char} (h : c ∈ substitute m v s) :
    c ∈ v ∨ c ∈ s :=
  mem_of_mem_substituteFrom v h

/-! ### Around a character that the mark does not hold -/

variable {d : Char}

theorem prefix_of_prefix_append (hd : d ∉ m) {a b : List Char} (h : m <+: a ++ d :: b) : m <+: a := by
  rcases List.prefix_or_prefix_of_prefix h (List.prefix_append a (d :: b)) with short | ⟨t, rfl⟩
  · exact short
  rw [List.prefix_append_right_inj] at h
  cases t with
  | nil => simp
  | cons e t =>
    obtain ⟨rfl, -⟩ := List.cons_prefix_cons.1 h
    exact absurd (List.mem_append_right a List.mem_cons_self) hd

theorem infix_of_infix_append (hd : d ∉ m) {a b : List Char} (h : m <:+: a ++ d :: b) :
    m <:+: a ∨ m <:+: b := by
  induction a with
  | nil =>
    rcases List.infix_cons_iff.1 h with front | behind
    · have empty : m <+: [] := prefix_of_prefix_append hd front
      exact .inl empty.isInfix
    · exact .inr behind
  | cons c a ih =>
    rcases List.infix_cons_iff.1 h with front | behind
    · have inside : m <+: c :: a := prefix_of_prefix_append hd front
      exact .inl inside.isInfix
    · exact (ih behind).imp_left List.infix_cons

theorem substitute_append (hm : m ≠ []) (hd : d ∉ m) (a b : List Char) :
    substitute m v (a ++ d :: b) = substitute m v a ++ d :: substitute m v b := by
  induction a using mark_induction hm with
  | nil =>
    have front : ¬m <+: d :: b := fun h => hm (List.prefix_nil.1 (prefix_of_prefix_append hd h))
    exact substitute_cons v front
  | mark a ih =>
    rw [List.append_assoc, substitute_mark v hm, ih, substitute_mark v hm, List.append_assoc]
  | char c a front ih =>
    have front' : ¬m <+: c :: (a ++ d :: b) := fun h => front (prefix_of_prefix_append hd h)
    rw [List.cons_append, substitute_cons v front', ih, substitute_cons v front, List.cons_append]

theorem dropTrailing_append {c : Char} (h : d ≠ c) (a b : List Char) :
    dropTrailing c (a ++ d :: b) = a ++ d :: dropTrailing c b := by
  have stop : ∀ s : List Char, (s ++ d :: a.reverse).dropWhile (· = c) =
      s.dropWhile (· = c) ++ d :: a.reverse := by
    intro s
    rw [List.dropWhile_append]
    split
    next nothing =>
      rw [List.isEmpty_iff.1 nothing, List.nil_append, List.dropWhile_cons_of_neg (by simpa using h)]
    next => rfl
  unfold dropTrailing
  rw [List.reverse_append, List.reverse_cons, List.append_assoc, List.singleton_append, stop,
    List.reverse_append, List.reverse_cons, List.reverse_reverse, List.append_assoc,
    List.singleton_append]

/-! ### Cutting at marks -/

/-- A text without marks is one piece; any other is a piece, a mark and the rest. -/
@[elab_as_elim]
theorem piece_induction (isMark : Char → Bool) {P : List Char → Prop}
    (piece : ∀ s, (∀ c ∈ s, isMark c = false) → P s)
    (join : ∀ a d b, (∀ c ∈ a, isMark c = false) → isMark d = true → P b → P (a ++ d :: b))
    (s : List Char) : P s := by
  -- `a` is the piece read since the last mark.
  have go : ∀ a, (∀ c ∈ a, isMark c = false) → P (a ++ s) := by
    induction s with
    | nil =>
      intro a clear
      rw [List.append_nil]
      exact piece a clear
    | cons c s ih =>
      intro a clear
      cases hc : isMark c with
      | true => exact join a c s clear hc (ih [] (by simp))
      | false =>
        have clear' : ∀ e ∈ a ++ [c], isMark e = false := by
          intro e he
          rcases List.mem_append.1 he with front | last
          · exact clear e front
          · rwa [List.mem_singleton.1 last]
        simpa using ih (a ++ [c]) clear'
  exact go [] (by simp)

variable {isMark : Char → Bool}

theorem forall_of_all {s : List Char} (h : s.all (!isMark ·) = true) : ∀ c ∈ s, isMark c = false := by
  simpa using h

theorem not_mem_of_forall {s : List Char} (h : ∀ c ∈ s, isMark c = false) (hd : isMark d = true) :
    d ∉ s := by
  intro hs
  rw [h d hs] at hd
  cases hd

theorem forall_substitute {s : List Char} (value : ∀ c ∈ v, isMark c = false)
    (clear : ∀ c ∈ s, isMark c = false) : ∀ c ∈ substitute m v s, isMark c = false :=
  fun c hc => (mem_of_mem_substitute v hc).elim (value c) (clear c)

theorem takeWhile_of_forall {s : List Char} (clear : ∀ c ∈ s, isMark c = false) :
    s.takeWhile (!isMark ·) = s := by
  rw [← s.append_nil, List.takeWhile_append_of_pos fun c hc => congrArg not (clear c hc),
    List.takeWhile_nil]

theorem takeWhile_append_mark {a : List Char} (clear : ∀ c ∈ a, isMark c = false)
    (hd : isMark d = true) (b : List Char) : (a ++ d :: b).takeWhile (!isMark ·) = a := by
  rw [List.takeWhile_append_of_pos fun c hc => congrArg not (clear c hc),
    List.takeWhile_cons_of_neg (by simp [hd]), List.append_nil]

theorem dropWhile_append_mark {a : List Char} (clear : ∀ c ∈ a, isMark c = false)
    (hd : isMark d = true) (b : List Char) : (a ++ d :: b).dropWhile (!isMark ·) = d :: b := by
  rw [List.dropWhile_append_of_pos fun c hc => congrArg not (clear c hc),
    List.dropWhile_cons_of_neg (by simp [hd])]

theorem dropWhile_of_forall {s : List Char} (clear : ∀ c ∈ s, isMark c = false) :
    s.dropWhile (!isMark ·) = [] := by
  rw [← s.append_nil, List.dropWhile_append_of_pos fun c hc => congrArg not (clear c hc),
    List.dropWhile_nil]

theorem takeWhile_append_of_any {s : List Char} (h : s.any isMark = true) (r : List Char) :
    (s ++ r).takeWhile (!isMark ·) = s.takeWhile (!isMark ·) := by
  induction s using piece_induction isMark with
  | piece s clear =>
    obtain ⟨c, hc, marked⟩ := List.any_eq_true.1 h
    rw [clear c hc] at marked
    cases marked
  | join a d b clear hd _ =>
    rw [List.append_assoc, List.cons_append, takeWhile_append_mark clear hd,
      takeWhile_append_mark clear hd]

theorem takeWhile_append_of_not_any {s : List Char} (h : s.any isMark = false) (r : List Char) :
    (s ++ r).takeWhile (!isMark ·) = s ++ r.takeWhile (!isMark ·) :=
  List.takeWhile_append_of_pos fun c hc => by simp [List.any_eq_false.1 h c hc]

theorem infix_takeWhile_or_dropWhile (mark : ∀ c ∈ m, isMark c = false) {s : List Char}
    (h : m <:+: s) : m <:+: s.takeWhile (!isMark ·) ∨ m <:+: s.dropWhile (!isMark ·) := by
  induction s using piece_induction isMark with
  | piece s clear =>
    rw [takeWhile_of_forall clear]
    exact .inl h
  | join a d b clear hd _ =>
    rw [takeWhile_append_mark clear hd, dropWhile_append_mark clear hd]
    exact (infix_of_infix_append (not_mem_of_forall mark hd) h).imp_right List.infix_cons

theorem takeWhile_substitute (hm : m ≠ []) (mark : ∀ c ∈ m, isMark c = false)
    (value : ∀ c ∈ v, isMark c = false) (s : List Char) :
    (substitute m v s).takeWhile (!isMark ·) = substitute m v (s.takeWhile (!isMark ·)) := by
  induction s using piece_induction isMark with
  | piece s clear =>
    rw [takeWhile_of_forall clear, takeWhile_of_forall (forall_substitute v value clear)]
  | join a d b clear hd _ =>
    rw [substitute_append v hm (not_mem_of_forall mark hd), takeWhile_append_mark clear hd,
      takeWhile_append_mark (forall_substitute v value clear) hd]

theorem parts_append_mark (hd : isMark d = true) (a b : List Char) :
    parts isMark (a ++ d :: b) = parts isMark a ++ parts isMark b := by
  induction a using piece_induction isMark with
  | piece a clear => rw [parts_append clear hd, parts_of_forall clear, List.singleton_append]
  | join a e r clear he ih =>
    rw [List.append_assoc, List.cons_append, parts_append clear he, ih, parts_append clear he,
      List.cons_append]

theorem parts_substitute (hm : m ≠ []) (mark : ∀ c ∈ m, isMark c = false)
    (value : ∀ c ∈ v, isMark c = false) (s : List Char) :
    parts isMark (substitute m v s) = (parts isMark s).map (substitute m v) := by
  induction s using piece_induction isMark with
  | piece s clear =>
    rw [parts_of_forall clear, parts_of_forall (forall_substitute v value clear), List.map_singleton]
  | join a d b clear hd ih =>
    rw [substitute_append v hm (not_mem_of_forall mark hd), parts_append clear hd,
      parts_append (forall_substitute v value clear) hd, ih, List.map_cons]

theorem isMark_of_mem_parts {p s : List Char} (h : p ∈ parts isMark s) :
    ∀ c ∈ p, isMark c = false := by
  induction s using piece_induction isMark with
  | piece s clear =>
    rw [parts_of_forall clear, List.mem_singleton] at h
    exact h ▸ clear
  | join a d b clear hd ih =>
    rw [parts_append clear hd, List.mem_cons] at h
    rcases h with rfl | behind
    · exact clear
    · exact ih behind

/-- A part stands between two marks, if a text has one more mark at either end. -/
theorem mem_parts_iff (mark : Char) {p s : List Char} :
    p ∈ parts (· = mark) s ↔
      mark ∉ p ∧ mark :: (p ++ [mark]) <:+: mark :: (s ++ [mark]) := by
  have marked : decide (mark = mark) = true := decide_eq_true rfl
  constructor
  · intro h
    refine ⟨fun hm => absurd (isMark_of_mem_parts h mark hm) (by simp), ?_⟩
    induction s using piece_induction (· = mark) with
    | piece s clear =>
      rw [parts_of_forall clear, List.mem_singleton] at h
      subst h
      exact List.infix_rfl
    | join a d b clear hd ih =>
      obtain rfl : d = mark := of_decide_eq_true hd
      rw [parts_append clear hd, List.mem_cons] at h
      rw [List.append_assoc, List.cons_append]
      rcases h with rfl | behind
      · exact ⟨[], b ++ [d], by simp⟩
      · exact (ih behind).trans (List.IsSuffix.isInfix ⟨d :: a, by simp⟩)
  · rintro ⟨clear, front, back, same⟩
    have clear : ∀ c ∈ p, decide (c = mark) = false := fun c hc => by
      rw [decide_eq_false_iff_not]
      rintro rfl
      exact clear hc
    have cut : parts (· = mark) front ++ p :: parts (· = mark) back =
        [] :: (parts (· = mark) s ++ [[]]) := by
      have pieces := congrArg (parts (· = mark)) same
      rw [List.append_assoc, List.cons_append, List.append_assoc, List.singleton_append,
        parts_append_mark marked, parts_append clear marked] at pieces
      rw [pieces, parts, if_pos marked, parts_append_mark marked]
      rfl
    -- The first part of the front and the last one of the back are those beyond the marks at the ends.
    obtain ⟨u, us, hu⟩ := List.exists_cons_of_ne_nil (parts_ne_nil (· = mark) front)
    obtain ⟨vs, v, hv⟩ :=
      (List.eq_nil_or_concat (parts (· = mark) back)).resolve_left (parts_ne_nil _ _)
    rw [hu, hv, List.concat_eq_append, ← List.cons_append, ← List.append_assoc] at cut
    rw [← List.append_inj_left' (List.cons.inj cut).2 rfl]
    exact List.mem_append_right _ List.mem_cons_self

theorem exists_part_of_infix (mark : ∀ c ∈ m, isMark c = false) {s : List Char} (h : m <:+: s) :
    ∃ p ∈ parts isMark s, m <:+: p := by
  induction s using piece_induction isMark with
  | piece s clear => exact ⟨s, by rw [parts_of_forall clear, List.mem_singleton], h⟩
  | join a d b clear hd ih =>
    rw [parts_append clear hd]
    rcases infix_of_infix_append (not_mem_of_forall mark hd) h with front | behind
    · exact ⟨a, List.mem_cons_self, front⟩
    · obtain ⟨p, hp, inside⟩ := ih behind
      exact ⟨p, List.mem_cons_of_mem a hp, inside⟩

theorem parts_intercalate (hd : isMark d = true) {ps : List (List Char)} (some_part : ps ≠ [])
    (clear : ∀ p ∈ ps, ∀ c ∈ p, isMark c = false) :
    parts isMark ([d].intercalate ps) = ps := by
  induction ps with
  | nil => exact absurd rfl some_part
  | cons p ps ih =>
    have first := clear p List.mem_cons_self
    cases ps with
    | nil => rw [List.intercalate_singleton, parts_of_forall first]
    | cons q qs =>
      have rest := ih (List.cons_ne_nil q qs) fun p hp => clear p (List.mem_cons_of_mem _ hp)
      rw [List.intercalate_cons_cons, List.append_assoc, List.singleton_append,
        parts_append first hd, rest]

end Casebook.Text
