import Casebook.Net.Segments
import Casebook.Proofs.Text.Substitute

/-!
# Paths without dots

The path of an address stands behind its scheme and its host and in front of a question mark or a number
sign. What removing dots does to its segments depends on which of them count as dots and on what going up
takes away; it leaves a path as it is exactly if no segment counts. The removal of this library is one
such rule, the plain removal of single and double dots another.
-/

namespace Casebook.Net

open Text (parts)

/-! ### The path of an address -/

def endsPath (c : Char) : Bool := c = '?' || c = '#'

def endsHost (c : Char) : Bool := c = '/' || endsPath c

def behindScheme (s : List Char) : List Char :=
  match s.dropWhile (fun c => !(c = ':' || endsHost c)) with
  | ':' :: r => r
  | _ => s

def behindHost : List Char → List Char
  | '/' :: '/' :: r => r.dropWhile (!endsHost ·)
  | s => s

/-- What stands in front of a question mark or a number sign. -/
def pathPart (s : String) : String := String.ofList (s.toList.takeWhile (!endsPath ·))

def addressPath (address : String) : String :=
  pathPart (String.ofList (behindHost (behindScheme address.toList)))

/-- The path behind a host. -/
def hostPath (s : List Char) : List Char := (s.dropWhile (!endsHost ·)).takeWhile (!endsPath ·)

theorem toList_pathPart {path : String} {t : List Char} (h : path.toList = '/' :: t) :
    (pathPart path).toList = '/' :: t.takeWhile (!endsPath ·) := by
  rw [pathPart, String.toList_ofList, h]
  rfl

/-- Whether a text can be the scheme of an address: nothing in it ends one. -/
def IsScheme (s : List Char) : Prop := ∀ c ∈ s, (c = ':' || endsHost c) = false

theorem isScheme_of_all {s : List Char} (h : s.all (fun c => !(c = ':' || endsHost c)) = true) :
    IsScheme s := Text.forall_of_all h

theorem addressPath_of_scheme {scheme r : List Char} (h : IsScheme scheme) {address : String}
    (text : address.toList = scheme ++ "://".toList ++ r) :
    addressPath address = String.ofList (hostPath r) := by
  have scheme_end : address.toList.dropWhile (fun c => !(c = ':' || endsHost c)) =
      ':' :: '/' :: '/' :: r := by
    rw [text, List.append_assoc, List.dropWhile_append_of_pos fun c hc => congrArg not (h c hc)]
    rfl
  have behind : behindScheme address.toList = '/' :: '/' :: r := by
    unfold behindScheme
    rw [scheme_end]
    rfl
  rw [addressPath, pathPart, String.toList_ofList, behind, behindHost, hostPath]

/-- Whether an address has a query or a fragment. -/
def hasQuery (address : String) : Bool := address.toList.any endsPath

/-- Whether an address names a host behind its scheme. -/
def NamesHost (address : String) : Prop :=
  ∃ scheme rest, address.toList = scheme ++ "://".toList ++ rest ∧ IsScheme scheme ∧
    ∃ c ∈ rest, c ≠ '/'

theorem endsPath_of_endsHost {c : Char} (h : endsHost c = false) : endsPath c = false :=
  (Bool.or_eq_false_iff.1 h).2

/-- What is put behind a host and its path belongs to the path unless a query has begun. -/
theorem hostPath_append (s t : List Char) : hostPath (s ++ '/' :: t) =
    hostPath s ++ if s.any endsPath then [] else ('/' :: t).takeWhile (!endsPath ·) := by
  induction s using Text.piece_induction endsHost with
  | piece s clear =>
    have noQuery : s.any endsPath = false :=
      List.any_eq_false.2 fun c hc => by simp [endsPath_of_endsHost (clear c hc)]
    rw [hostPath, hostPath, Text.dropWhile_append_mark clear (by decide), Text.dropWhile_of_forall clear,
      noQuery]
    rfl
  | join a d b clear hd _ =>
    have noQuery : a.any endsPath = false :=
      List.any_eq_false.2 fun c hc => by simp [endsPath_of_endsHost (clear c hc)]
    rw [hostPath, hostPath, List.append_assoc, List.cons_append, Text.dropWhile_append_mark clear hd,
      Text.dropWhile_append_mark clear hd, List.any_append, noQuery, Bool.false_or, ← List.cons_append]
    cases query : (d :: b).any endsPath with
    | true => rw [Text.takeWhile_append_of_any query, if_pos rfl, List.append_nil]
    | false =>
      have whole := Text.takeWhile_append_of_not_any query []
      rw [Text.takeWhile_append_of_not_any query, if_neg Bool.false_ne_true]
      rw [List.append_nil, List.takeWhile_nil, List.append_nil] at whole
      rw [whole]

theorem hostPath_root {s : List Char} (noQuery : s.any endsPath = false) :
    hostPath s = [] ∨ ∃ t, hostPath s = '/' :: t := by
  induction s using Text.piece_induction endsHost with
  | piece s clear =>
    rw [hostPath, Text.dropWhile_of_forall clear]
    exact .inl rfl
  | join a d b clear hd _ =>
    have notPath : endsPath d = false := by
      simpa using List.any_eq_false.1 noQuery d (List.mem_append_right a List.mem_cons_self)
    -- The first character that ends the host begins no query, so it is the slash.
    have slash : d = '/' := by simpa [endsHost, notPath] using hd
    rw [hostPath, Text.dropWhile_append_mark clear hd, slash]
    exact .inr ⟨_, List.takeWhile_cons_of_pos (by decide)⟩

theorem hasQuery_of_scheme {scheme rest : List Char} {address : String} (h : IsScheme scheme)
    (text : address.toList = scheme ++ "://".toList ++ rest) :
    hasQuery address = rest.any endsPath := by
  have front : (scheme ++ "://".toList).any endsPath = false := by
    rw [List.any_append, Bool.or_eq_false_iff]
    refine ⟨List.any_eq_false.2 fun c hc => ?_, by decide⟩
    simp [endsPath_of_endsHost (Bool.or_eq_false_iff.1 (h c hc)).2]
  rw [hasQuery, text, List.any_append, front, Bool.false_or]

/-- A path put behind an address belongs to its path unless the address has a query. -/
theorem addressPath_append {base address : String} {t : List Char} (h : NamesHost base)
    (text : address.toList = base.toList ++ '/' :: t) : addressPath address =
      addressPath base ++ if hasQuery base then "" else pathPart (String.ofList ('/' :: t)) := by
  obtain ⟨scheme, rest, base_text, hscheme, _⟩ := h
  rw [base_text, List.append_assoc] at text
  rw [addressPath_of_scheme hscheme text, addressPath_of_scheme hscheme base_text,
    hasQuery_of_scheme hscheme base_text, hostPath_append, pathPart, String.toList_ofList,
    ← String.toList_inj, String.toList_append]
  split <;> simp

theorem addressPath_root {base : String} (h : NamesHost base) (noQuery : hasQuery base = false) :
    addressPath base = "" ∨ ∃ s, (addressPath base).toList = '/' :: s := by
  obtain ⟨scheme, rest, text, hscheme, _⟩ := h
  rw [hasQuery_of_scheme hscheme text] at noQuery
  rw [addressPath_of_scheme hscheme text, String.toList_ofList]
  rcases hostPath_root noQuery with empty | rooted
  · exact .inl (by rw [empty])
  · exact .inr rooted

/-! ### Segments -/

/-- The path with the given segments. -/
def ofSegments (ss : List String) : String := "/" ++ "/".intercalate ss

theorem toList_ofSegments (ss : List String) :
    (ofSegments ss).toList = '/' :: ['/'].intercalate (ss.map String.toList) := by
  rw [ofSegments, String.toList_append, String.toList_intercalate]
  rfl

variable {path : String} {s : List Char}

theorem segments_eq (h : path.toList = '/' :: s) :
    segments path = (parts (· = '/') s).map String.ofList := by
  rw [segments, Text.cut, h, parts, if_pos (decide_eq_true rfl), List.map_cons, List.tail_cons]

theorem segments_ne_nil (h : path.toList = '/' :: s) : segments path ≠ [] := by
  rw [segments_eq h]
  exact fun none_left => Text.parts_ne_nil _ s (List.map_eq_nil_iff.1 none_left)

theorem segments_append (front : String) (h : path.toList = '/' :: s) :
    segments (front ++ path) = segments front ++ segments path := by
  rw [segments_eq h, segments, segments, Text.cut, Text.cut, String.toList_append, h,
    Text.parts_append_mark (by simp), List.map_append]
  refine List.tail_append_of_ne_nil ?_
  exact fun none_left => Text.parts_ne_nil _ front.toList (List.map_eq_nil_iff.1 none_left)

theorem ofSegments_segments (h : path.toList = '/' :: s) : ofSegments (segments path) = path := by
  have texts : (segments path).map String.toList = parts (· = '/') s := by
    rw [segments_eq h, List.map_map]
    exact List.map_id'' (fun _ => String.toList_ofList) _
  rw [← String.toList_inj, toList_ofSegments, texts, Text.intercalate_parts, h]

theorem slash_not_mem_segments : ∀ t ∈ segments path, '/' ∉ t.toList := by
  intro t ht
  obtain ⟨p, hp, rfl⟩ := List.mem_map.1 (List.mem_of_mem_tail ht)
  rw [String.toList_ofList]
  exact Text.not_mem_of_forall (Text.isMark_of_mem_parts hp) (decide_eq_true rfl)

theorem segments_ofSegments {ss : List String} (some_segment : ss ≠ [])
    (h : ∀ t ∈ ss, '/' ∉ t.toList) : segments (ofSegments ss) = ss := by
  have clear : ∀ p ∈ ss.map String.toList, ∀ c ∈ p, decide (c = '/') = false := by
    intro p hp c hc
    obtain ⟨t, ht, rfl⟩ := List.mem_map.1 hp
    refine decide_eq_false ?_
    rintro rfl
    exact h t ht hc
  have some_part : ss.map String.toList ≠ [] := fun none_left =>
    some_segment (List.map_eq_nil_iff.1 none_left)
  rw [segments_eq (toList_ofSegments ss), Text.parts_intercalate (by simp) some_part clear,
    List.map_map]
  exact List.map_id'' (fun _ => String.ofList_toList) _

/-! ### Rules for dots -/

/-- Which segments stand for the path itself or for the one above, and what going up takes away from
the segments kept so far, the last one first. -/
structure DotRule where
  isHere : String → Bool
  isUp : String → Bool
  oneUp : List String → List String
  here_empty : isHere "" = false
  up_empty : isUp "" = false
  oneUp_subset : ∀ above, oneUp above ⊆ above

namespace DotRule

variable (rule : DotRule)

def isDots (t : String) : Bool := rule.isHere t || rule.isUp t

def keep (above : List String) (t : String) : List String :=
  if rule.isUp t then rule.oneUp above
  else if rule.isHere t then above
  else t :: above

/-- The segments kept from some that others follow. -/
def dirs (ss : List String) : List String := (ss.foldl rule.keep []).reverse

/-- The segments without dots; dots at the end leave an empty one. -/
def resolve (ss : List String) : List String :=
  rule.dirs ss ++ if ss.getLast?.any rule.isDots then [""] else []

def resolved (path : String) : String :=
  if path = "" then "" else ofSegments (rule.resolve (segments path))

/-- Single and double dots as they are written, without exceptions. -/
def plain : DotRule where
  isHere t := t = "."
  isUp t := t = ".."
  oneUp := List.tail
  here_empty := by decide
  up_empty := by decide
  oneUp_subset := fun _ _ => List.mem_of_mem_tail

/-- The dots that this library removes. -/
def lenient : DotRule where
  isHere := Net.isHere
  isUp := Net.isUp
  oneUp := Net.oneUp
  here_empty := by decide
  up_empty := by decide
  oneUp_subset := by
    intro above
    cases above with
    | nil => exact List.Subset.refl _
    | cons t r =>
      rw [Net.oneUp]
      split
      · exact List.Subset.refl _
      · exact List.subset_cons_self t r

theorem removeDots_eq (ss : List String) : removeDots ss = lenient.resolve ss := by
  have go : ∀ above, removeDotsFrom above ss = (ss.foldl lenient.keep above).reverse ++
      if ss.getLast?.any lenient.isDots then [""] else [] := by
    intro above
    fun_induction removeDotsFrom above ss with
    | case1 above => exact (List.append_nil _).symm
    | case2 above t up => simp [keep, isDots, lenient, up]
    | case3 above t up here => simp [keep, isDots, lenient, up, here]
    | case4 above t up here => simp [keep, isDots, lenient, up, here]
    | case5 above t u r up ih =>
      have step : lenient.keep above t = Net.oneUp above := if_pos up
      rw [List.foldl_cons, step, ih, List.getLast?_cons_cons]
    | case6 above t u r up here ih =>
      have step : lenient.keep above t = above := (if_neg up).trans (if_pos here)
      rw [List.foldl_cons, step, ih, List.getLast?_cons_cons]
    | case7 above t u r up here ih =>
      have step : lenient.keep above t = t :: above := (if_neg up).trans (if_neg here)
      rw [List.foldl_cons, step, ih, List.getLast?_cons_cons]
  exact go []

theorem isDots_plain {t : String} : plain.isDots t = false ↔ t ≠ "." ∧ t ≠ ".." := by
  simp [isDots, plain]

theorem withDots_of_not_mem {s : List Char} (h : '%' ∉ s) : withDots s = s := by
  fun_induction withDots s with
  | case1 c r _ ih => exact absurd List.mem_cons_self h
  | case2 c r _ ih => exact absurd List.mem_cons_self h
  | case3 c r _ ih => rw [ih fun behind => h (List.mem_cons_of_mem c behind)]
  | case4 => rfl

/-- Without percent signs the rules agree on what counts as dots. -/
theorem isDots_lenient {t : String} (h : '%' ∉ t.toList) : lenient.isDots t = plain.isDots t := by
  simp only [isDots, lenient, plain, Net.isHere, Net.isUp, withDots_of_not_mem h,
    ← String.toList_inj]
  rfl

/-! ### What a rule leaves -/

variable {rule} {ss ts : List String} {t : String}

theorem keep_of_isDots (h : rule.isDots t = true) (above : List String) :
    rule.keep above t ⊆ above := by
  unfold keep
  split
  next => exact rule.oneUp_subset above
  next up => rw [if_pos (by simpa [isDots, up] using h)]; exact List.Subset.refl _

theorem keep_of_not_isDots (h : rule.isDots t = false) (above : List String) :
    rule.keep above t = t :: above := by
  obtain ⟨here, up⟩ := Bool.or_eq_false_iff.1 h
  rw [keep, up, here]
  rfl

theorem foldl_keep_of_forall (h : ∀ t ∈ ts, rule.isDots t = false) (above : List String) :
    ts.foldl rule.keep above = ts.reverse ++ above := by
  induction ts generalizing above with
  | nil => rfl
  | cons t ts ih =>
    rw [List.forall_mem_cons] at h
    rw [List.foldl_cons, keep_of_not_isDots h.1, ih h.2, List.reverse_cons, List.append_assoc,
      List.singleton_append]

/-- Dots put nothing on the segments kept, and going up only takes away. -/
theorem isDots_of_mem_foldl {above : List String} (h : t ∈ ss.foldl rule.keep above) :
    t ∈ above ∨ t ∈ ss ∧ rule.isDots t = false := by
  induction ss generalizing above with
  | nil => exact .inl h
  | cons u ss ih =>
    rcases ih h with kept | ⟨behind, clear⟩
    · cases hu : rule.isDots u with
      | true => exact .inl (keep_of_isDots hu above kept)
      | false =>
        rw [keep_of_not_isDots hu, List.mem_cons] at kept
        rcases kept with rfl | kept
        · exact .inr ⟨List.mem_cons_self, hu⟩
        · exact .inl kept
    · exact .inr ⟨List.mem_cons_of_mem u behind, clear⟩

theorem mem_of_mem_resolve (h : t ∈ rule.resolve ss) :
    t = "" ∨ t ∈ ss ∧ rule.isDots t = false := by
  rcases List.mem_append.1 h with kept | last
  · rcases isDots_of_mem_foldl (List.mem_reverse.1 kept) with none_above | clear
    · cases none_above
    · exact .inr clear
  · split at last
    · exact .inl (List.mem_singleton.1 last)
    · cases last

theorem isDots_of_mem_resolve (h : t ∈ rule.resolve ss) : rule.isDots t = false := by
  rcases mem_of_mem_resolve h with rfl | ⟨_, clear⟩
  · rw [isDots, rule.here_empty, rule.up_empty]
    rfl
  · exact clear

/-- Segments that are no dots stay, behind whatever is left of the ones in front. -/
theorem resolve_append (some_segment : ts ≠ []) (h : ∀ t ∈ ts, rule.isDots t = false) :
    rule.resolve (ss ++ ts) = rule.dirs ss ++ ts := by
  have last : (ss ++ ts).getLast?.any rule.isDots = false := by
    rw [List.getLast?_append, List.getLast?_eq_some_getLast some_segment]
    exact h _ (List.getLast_mem some_segment)
  have kept : rule.dirs (ss ++ ts) = rule.dirs ss ++ ts := by
    rw [dirs, List.foldl_append, foldl_keep_of_forall h, List.reverse_append, List.reverse_reverse,
      dirs]
  rw [resolve, last, kept, if_neg Bool.false_ne_true, List.append_nil]

theorem resolve_eq_self_iff : rule.resolve ss = ss ↔ ∀ t ∈ ss, rule.isDots t = false := by
  refine ⟨fun same t ht => isDots_of_mem_resolve (same.symm ▸ ht), fun h => ?_⟩
  cases ss with
  | nil => rfl
  | cons t ss =>
    have kept : rule.resolve ([] ++ t :: ss) = rule.dirs [] ++ t :: ss :=
      resolve_append (List.cons_ne_nil t ss) h
    exact kept

theorem resolve_ne_nil (some_segment : ss ≠ []) : rule.resolve ss ≠ [] := by
  obtain ⟨front, last, rfl⟩ := (List.eq_nil_or_concat ss).resolve_left some_segment
  rw [List.concat_eq_append]
  cases h : rule.isDots last with
  | true => simp [resolve, h]
  | false =>
    rw [resolve_append (List.cons_ne_nil last []) (by simpa using h)]
    simp

theorem segments_resolved (h : path.toList = '/' :: s) :
    segments (rule.resolved path) = rule.resolve (segments path) := by
  have given : path ≠ "" := by
    rintro rfl
    cases h
  rw [resolved, if_neg given, segments_ofSegments (resolve_ne_nil (segments_ne_nil h))]
  intro t ht
  rcases mem_of_mem_resolve ht with rfl | ⟨inside, _⟩
  · simp
  · exact slash_not_mem_segments t inside

example : plain.resolved "/a/b/c/./../../g" = "/a/g" := by decide

theorem resolved_eq_self_iff (h : path.toList = '/' :: s) :
    rule.resolved path = path ↔ ∀ t ∈ segments path, rule.isDots t = false := by
  rw [← resolve_eq_self_iff, ← segments_resolved h]
  refine ⟨congrArg segments, fun same => ?_⟩
  have rooted : rule.resolved path = ofSegments (rule.resolve (segments path)) := by
    refine if_neg ?_
    rintro rfl
    cases h
  rw [rooted, ← segments_resolved h, same, ofSegments_segments h]

end DotRule
end Casebook.Net
