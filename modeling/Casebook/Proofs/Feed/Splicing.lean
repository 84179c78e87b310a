import Casebook.Feed.Fetch
import Casebook.Proofs.Http.Paths
import Casebook.Proofs.Net.Targets
import Casebook.Proofs.Settings.Checking

/-!
# Case ids in the paths of sources

A path has its mark for the case id where a whole segment stands. The address for a case then has the
segments of the base and those of the path, with the id itself in the place of each mark. Removing dots
leaves this path alone exactly if the base has no dots and the id is neither a single dot nor two; both are
legal ids. For any other id the segments of the path stay below whatever is left of the base, in the
address and in the request that is sent.
-/

namespace Casebook.Feed

open Net

/-! ### Bases and paths -/

/-- A path that is accepted, with its marks in segments of their own and no other segment of dots. -/
structure IsTemplate (path : String) : Prop where
  accepted : TimelineSettings.checkPath path = .ok ()
  whole : ∀ t ∈ segments (pathPart path),
    Text.occursIn placeholder.toList t.toList = true → t = placeholder
  notInQuery : Text.occursIn placeholder.toList (path.toList.dropWhile (!endsPath ·)) = false
  clear : ∀ t ∈ segments (pathPart path), t ≠ "." ∧ t ≠ ".."

/-- The segments of a path, as they are shown, with an id in the place of the marks. -/
def filled (shown : String → String) (c : CaseId) (path : String) : List String :=
  (segments (pathPart path)).map fun t => if t = placeholder then c.text else shown t

theorem mark_ne_nil : placeholder.toList ≠ [] := by decide

theorem mark_slash : ∀ c ∈ placeholder.toList, decide (c = '/') = false :=
  Text.forall_of_all (by decide)

theorem mark_endsPath : ∀ c ∈ placeholder.toList, endsPath c = false :=
  Text.forall_of_all (by decide)

theorem endsPath_of_mem {c : CaseId} : ∀ d ∈ c.text.toList, endsPath d = false := by
  intro d hd
  have legal := c.isLegal.2.2 d hd
  have inHost := endsHost_of (p := CaseId.isLegalChar) (by decide) (by decide) (by decide) legal
  exact endsPath_of_endsHost inHost

variable {path : String} {c : CaseId}

theorem IsTemplate.rooted (h : IsTemplate path) : ∃ t, path.toList = '/' :: t := by
  have root := (TimelineSettings.checkPath_ok.1 h.accepted).1
  obtain ⟨t, ht⟩ := String.startsWith_string_iff.1 root
  exact ⟨t, ht.symm⟩

theorem IsTemplate.placeholder_mem (h : IsTemplate path) :
    placeholder ∈ segments (pathPart path) := by
  obtain ⟨t, ht⟩ := h.rooted
  have somewhere := Text.occursIn_iff.1 (TimelineSettings.checkPath_ok.1 h.accepted).2
  -- The mark that the check has found is in the path, behind its first slash, and so in a segment.
  rcases Text.infix_takeWhile_or_dropWhile mark_endsPath somewhere with front | behind
  · rw [← String.toList_ofList (l := path.toList.takeWhile _), ← pathPart, toList_pathPart ht,
      ← List.nil_append ('/' :: _)] at front
    rcases Text.infix_of_infix_append (by decide) front with none_left | behind_root
    · exact absurd (List.infix_nil.1 none_left) mark_ne_nil
    · obtain ⟨p, hp, inside⟩ := Text.exists_part_of_infix mark_slash behind_root
      have segment : String.ofList p ∈ segments (pathPart path) := by
        rw [segments_eq (toList_pathPart ht)]
        exact List.mem_map_of_mem hp
      have occurs : Text.occursIn placeholder.toList (String.ofList p).toList = true := by
        rw [String.toList_ofList]
        exact Text.occursIn_iff.2 inside
      exact h.whole _ segment occurs ▸ segment
  · rw [← Text.occursIn_iff, h.notInQuery] at behind
    cases behind

/-- The mark in a path gives way to the id, segment by segment. -/
theorem IsTemplate.filled_eq (h : IsTemplate path) {t : List Char} (ht : path.toList = '/' :: t) :
    filled id c path = (Text.parts (· = '/') (Text.substitute placeholder.toList c.text.toList
      (t.takeWhile (!endsPath ·)))).map String.ofList := by
  have cut := segments_eq (toList_pathPart ht)
  have whole := h.whole
  rw [cut] at whole
  rw [filled, cut, Text.parts_substitute _ mark_ne_nil mark_slash CaseId.isSlash_of_mem, List.map_map,
    List.map_map]
  refine List.map_congr_left fun p hp => ?_
  simp only [Function.comp]
  split
  next mark =>
    have chars : p = placeholder.toList := by rw [← mark, String.toList_ofList]
    rw [chars, Text.substitute_self _ mark_ne_nil, String.ofList_toList]
  next other =>
    refine congrArg String.ofList (Text.substitute_of_absent _ fun inside => ?_).symm
    refine other (whole _ (List.mem_map_of_mem hp) ?_)
    rw [String.toList_ofList]
    exact Text.occursIn_iff.2 inside

/-- What holds of the segments of a path apart from its marks, and of an id, holds with the id in. -/
theorem IsTemplate.forall_filled_iff (h : IsTemplate path) {P : String → Prop} {shown : String → String}
    (others : ∀ t ∈ segments (pathPart path), t ≠ placeholder → P (shown t)) :
    (∀ t ∈ filled shown c path, P t) ↔ P c.text := by
  constructor
  · intro all
    exact all _ (List.mem_map.2 ⟨placeholder, h.placeholder_mem, if_pos rfl⟩)
  · intro fits t ht
    obtain ⟨u, hu, rfl⟩ := List.mem_map.1 ht
    split
    next => exact fits
    next other => exact others u hu other

/-! ### The path of the address -/

theorem toList_urlFor (e : Endpoint) (c : CaseId) {t : List Char} (ht : e.path.toList = '/' :: t) :
    (e.urlFor c).toList = e.base.toList ++
      '/' :: Text.substitute placeholder.toList c.text.toList t := by
  have root := Text.substitute_append (m := placeholder.toList) c.text.toList mark_ne_nil
    (d := '/') (by decide) [] t
  rw [Endpoint.urlFor, String.toList_append, String.toList_ofList, ht]
  exact congrArg (e.base.toList ++ ·) root

/-- A base keeps its scheme and its host without the slashes at its end. -/
theorem namesHost_ofBase {source : Source} {base path : String} (h : NamesHost base) :
    NamesHost (Endpoint.ofBase source base path).base := by
  obtain ⟨scheme, rest, text, hscheme, first, hfirst, notSlash⟩ := h
  obtain ⟨front, behind, rfl⟩ := List.append_of_mem hfirst
  refine ⟨scheme, front ++ first :: Text.dropTrailing '/' behind, ?_, hscheme, first, by simp, notSlash⟩
  rw [Endpoint.ofBase, String.toList_ofList, text, ← List.append_assoc,
    Text.dropTrailing_append notSlash, List.append_assoc]

theorem segments_urlFor {e : Endpoint} (base : NamesHost e.base) (template : IsTemplate e.path)
    (noQuery : hasQuery e.base = false) :
    segments (addressPath (e.urlFor c)) = segments (addressPath e.base) ++ filled id c e.path := by
  obtain ⟨t, ht⟩ := template.rooted
  rw [addressPath_append base (toList_urlFor e c ht), noQuery, if_neg Bool.false_ne_true]
  have place : (pathPart (String.ofList
      ('/' :: Text.substitute placeholder.toList c.text.toList t))).toList =
      '/' :: Text.substitute placeholder.toList c.text.toList (t.takeWhile (!endsPath ·)) := by
    rw [← Text.takeWhile_substitute _ mark_ne_nil mark_endsPath endsPath_of_mem]
    exact toList_pathPart (String.toList_ofList)
  rw [segments_append _ place, segments_eq place, template.filled_eq ht]

theorem rooted_urlFor {e : Endpoint} (base : NamesHost e.base) (template : IsTemplate e.path)
    (noQuery : hasQuery e.base = false) : ∃ s, (addressPath (e.urlFor c)).toList = '/' :: s := by
  obtain ⟨t, ht⟩ := template.rooted
  rw [addressPath_append base (toList_urlFor e c ht), noQuery, if_neg Bool.false_ne_true,
    String.toList_append, toList_pathPart (String.toList_ofList)]
  rcases addressPath_root base noQuery with empty | ⟨s, rooted⟩
  · rw [empty]
    exact ⟨_, rfl⟩
  · rw [rooted]
    exact ⟨_, rfl⟩

/-! ### Dots -/

/-- A legal character is read and sent as it stands. -/
theorem isPlain_of_isLegalChar {d : Char} (h : CaseId.isLegalChar d = true) : isPlain d = true ∧
    (d.toNat < 32 || 126 < d.toNat || Url.isSpecialInPath d) = false := by
  have all : ∀ n : Fin 128, CaseId.isLegalChar (Char.ofNat n) = true →
      isPlain (Char.ofNat n) = true ∧ ((Char.ofNat n).toNat < 32 || 126 < (Char.ofNat n).toNat ||
        Url.isSpecialInPath (Char.ofNat n)) = false := by decide
  have this_one := all ⟨d.toNat, CaseId.lt_of_isLegalChar h⟩
  rw [Char.ofNat_toNat] at this_one
  exact this_one h

theorem encodedSegment_text (c : CaseId) : encodedSegment c.text = c.text := by
  rw [encodedSegment, Url.encoded, percentEncode_of_forall, String.ofList_toList]
  exact fun d hd => (isPlain_of_isLegalChar (c.isLegal.2.2 d hd)).2

theorem percent_not_mem_text (c : CaseId) : '%' ∉ c.text.toList := fun h =>
  absurd (c.isLegal.2.2 _ h) (by decide)

/-! ### The request -/

theorem target_of_visit {source : Source} {left : Nat} {u : Uri} {replies : Replies} {target : String}
    (h : (visit source left u replies).targets.head? = some target) : target = u.target := by
  unfold visit at h
  split at h
  · cases h
  · cases h
  · cases h; rfl
  · cases h; rfl
  · split at h
    · cases h; rfl
    · split at h
      · cases h; rfl
      · split at h
        · cases h; rfl
        · cases h; rfl
        · split at h <;> cases h <;> rfl

/-- The first request for a case asks for its address. -/
theorem ofAddress?_of_fetch {e : Endpoint} {isLate : Bool} {replies : Replies} {target : String}
    (h : (fetch e c isLate replies).targets.head? = some target) :
    ∃ u, Uri.ofAddress? (e.urlFor c) = some u ∧ target = u.target := by
  unfold fetch at h
  split at h
  · cases h
  · split at h
    · cases h
    next u address =>
      split at h
      · exact ⟨u, address, target_of_visit h⟩
      · cases h

/-- An endpoint of the web that is read as it is written, with no dots but those its base may have. -/
structure IsOrdinary (e : Endpoint) : Prop where
  base : ∃ scheme r, e.base.toList = scheme.toList ++ "://".toList ++ r ∧ IsWeb scheme r
  plain : ∀ d ∈ e.path.toList, isPlain d = true
  clear : ∀ t ∈ segments (pathPart e.path), t ≠ placeholder →
    DotRule.lenient.isDots (encodedSegment t) = false

/-- The address of the web for a case, in the form in which it is read. -/
theorem IsOrdinary.isWeb {e : Endpoint} (h : IsOrdinary e) {t : List Char}
    (ht : e.path.toList = '/' :: t) (c : CaseId) :
    ∃ scheme r, (e.urlFor c).toList = scheme.toList ++ "://".toList ++ r ∧ IsWeb scheme r := by
  obtain ⟨scheme, r, text, web⟩ := h.base
  refine ⟨scheme, r ++ '/' :: Text.substitute placeholder.toList c.text.toList t, ?_, web.scheme, ?_,
    ?_⟩
  · rw [toList_urlFor e c ht, text, List.append_assoc]
  · obtain ⟨first, left, rfl, notSlash⟩ := web.host
    exact ⟨first, _, List.cons_append, notSlash⟩
  · have plain := h.plain
    rw [ht, List.forall_mem_cons] at plain
    rw [List.forall_mem_append, List.forall_mem_cons]
    refine ⟨web.plain, by decide, fun d hd => ?_⟩
    rcases Text.mem_of_mem_substitute _ hd with value | kept
    · exact (isPlain_of_isLegalChar (c.isLegal.2.2 d value)).1
    · exact plain.2 d kept

theorem map_filled (c : CaseId) (path : String) :
    (filled id c path).map encodedSegment = filled encodedSegment c path := by
  rw [filled, filled, List.map_map]
  refine List.map_congr_left fun t _ => ?_
  simp only [Function.comp]
  split
  · exact encodedSegment_text c
  · rfl

/-- What becomes of a case id in the path of an endpoint. -/
structure Splices (e : Endpoint) (c : CaseId) : Prop where
  /-- Each mark gives way to one segment, the id. -/
  inserted : segments (addressPath (e.urlFor c)) =
    segments (addressPath e.base) ++ filled id c e.path
  unchanged : DotRule.plain.resolved (addressPath (e.urlFor c)) = addressPath (e.urlFor c) ↔
    (∀ t ∈ segments (addressPath e.base), t ≠ "." ∧ t ≠ "..") ∧ c.text ≠ "." ∧ c.text ≠ ".."
  below : c.text ≠ "." → c.text ≠ ".." →
    segments (DotRule.plain.resolved (addressPath (e.urlFor c))) =
      DotRule.plain.dirs (segments (addressPath e.base)) ++ filled id c e.path
  /-- Nor does the first request leave what the base stands for. -/
  asked : IsOrdinary e → c.text ≠ "." → c.text ≠ ".." → ∀ isLate replies target,
    (fetch e c isLate replies).targets.head? = some target →
      segments (pathPart target) =
        DotRule.lenient.dirs ((segments (addressPath e.base)).map encodedSegment) ++
          filled encodedSegment c e.path

theorem splices_of_noQuery {e : Endpoint} (base : NamesHost e.base) (template : IsTemplate e.path)
    (noQuery : hasQuery e.base = false) : Splices e c := by
  obtain ⟨s, rooted⟩ := rooted_urlFor (c := c) base template noQuery
  obtain ⟨t, ht⟩ := template.rooted
  have inserted := segments_urlFor (c := c) base template noQuery
  have some_segment : filled id c e.path ≠ [] := by
    intro none_left
    have cut := template.placeholder_mem
    rw [List.map_eq_nil_iff.1 none_left] at cut
    cases cut
  have filled_plain : (∀ t ∈ filled id c e.path, DotRule.plain.isDots t = false) ↔
      DotRule.plain.isDots c.text = false :=
    template.forall_filled_iff fun t ht _ => DotRule.isDots_plain.2 (template.clear t ht)
  refine ⟨inserted, ?_, fun here up => ?_, fun ordinary here up isLate replies target first => ?_⟩
  · rw [DotRule.resolved_eq_self_iff rooted, inserted, List.forall_mem_append, filled_plain]
    simp only [DotRule.isDots_plain]
  · rw [DotRule.segments_resolved rooted, inserted,
      DotRule.resolve_append some_segment (filled_plain.2 (DotRule.isDots_plain.2 ⟨here, up⟩))]
  · obtain ⟨u, address, rfl⟩ := ofAddress?_of_fetch first
    obtain ⟨scheme, r, text, web⟩ := ordinary.isWeb ht c
    have id_clear : DotRule.lenient.isDots c.text = false := by
      rw [DotRule.isDots_lenient (percent_not_mem_text c)]
      exact DotRule.isDots_plain.2 ⟨here, up⟩
    rw [segments_target web text rooted address, inserted, List.map_append, map_filled,
      DotRule.removeDots_eq, DotRule.resolve_append]
    · rw [← map_filled]
      exact fun none_left => some_segment (List.map_eq_nil_iff.1 none_left)
    · exact (template.forall_filled_iff ordinary.clear).2 id_clear

theorem splices_ofBase {source : Source} {base path : String} (hbase : NamesHost base)
    (template : IsTemplate path) {e : Endpoint} (made : e = .ofBase source base path) (c : CaseId) :
    (hasQuery e.base = true → addressPath (e.urlFor c) = addressPath e.base) ∧
      (hasQuery e.base = false → Splices e c) := by
  have host : NamesHost e.base := made ▸ namesHost_ofBase hbase
  have template' : IsTemplate e.path := made ▸ template
  refine ⟨fun query => ?_, splices_of_noQuery host template'⟩
  obtain ⟨t, ht⟩ := template'.rooted
  rw [addressPath_append host (toList_urlFor e c ht), query, if_pos rfl, String.append_empty]

/-! ### The path that is used unless another is set -/

theorem isTemplate_default : IsTemplate TimelineSettings.default.path where
  accepted := TimelineSettings.checkPath_ok.2
    ⟨String.startsWith_string_iff.2 (by decide), by decide⟩
  whole := by decide
  notInQuery := by decide
  clear := by decide

/-- Where orders are asked for on this machine. -/
def ordersBase : String := "http://[::1]:8081/api/"

theorem namesHost_ordersBase : NamesHost ordersBase :=
  ⟨"http".toList, "[::1]:8081/api/".toList, by decide, isScheme_of_all (by decide), '[', by decide,
    by decide⟩

def orders : Endpoint := .ofBase .order ordersBase TimelineSettings.default.path

theorem isOrdinary_orders : IsOrdinary orders where
  base := ⟨"http", "[::1]:8081/api".toList, by decide, .inl rfl, ⟨'[', _, rfl, by decide⟩,
    List.all_eq_true.1 (by decide)⟩
  plain := List.all_eq_true.1 (by decide)
  clear := by decide

def pointed : CaseId := ⟨"case_1.a-b", by simp, by decide, List.all_eq_true.1 (by decide)⟩

theorem splices_pointed : NamesHost ordersBase ∧ IsTemplate TimelineSettings.default.path ∧
    DotRule.plain.resolved (addressPath (orders.urlFor pointed)) = addressPath (orders.urlFor pointed) ∧
    ∃ target, (fetch orders pointed false [⟨false, .nonsense⟩]).targets.head? = some target ∧
      segments (pathPart target) = ["api", "cases", "case_1.a-b", "events"] := by
  have spliced : Splices orders pointed :=
    (splices_ofBase namesHost_ordersBase isTemplate_default rfl pointed).2 (by decide)
  have first : (fetch orders pointed false [⟨false, .nonsense⟩]).targets.head? =
      some "/api/cases/case_1.a-b/events" := by decide +kernel
  refine ⟨namesHost_ordersBase, isTemplate_default,
    spliced.unchanged.2 ⟨by decide, by decide, by decide⟩, _, first, ?_⟩
  rw [spliced.asked isOrdinary_orders (by decide) (by decide) false [⟨false, .nonsense⟩] _ first]
  decide

def twoDots : CaseId := ⟨"..", by simp, by decide, List.all_eq_true.1 (by decide)⟩

/-- Two dots are a legal id, and with them a source is asked for what stands above its cases. -/
theorem escapes_twoDots : CaseId.parse ".." = .ok twoDots ∧ NamesHost ordersBase ∧
    IsTemplate TimelineSettings.default.path ∧
    addressPath (orders.urlFor twoDots) = "/api/cases/../events" ∧
    DotRule.plain.resolved (addressPath (orders.urlFor twoDots)) = "/api/events" ∧
    (fetch orders twoDots false [⟨false, .nonsense⟩]).targets = ["/api/events"] :=
  ⟨CaseId.parse_text twoDots, namesHost_ordersBase, isTemplate_default, by decide, by decide,
    by decide +kernel⟩

end Casebook.Feed
