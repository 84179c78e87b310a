import Casebook.Proofs.Net.Hosts

/-!
# The path that is asked for

Reading the address of something on the web keeps its path, without its dots and with percent signs for
what may not stand in a request, and the request target made of it has this path again.
-/

namespace Casebook.Net

open Text (parts)

/-- A segment as it stands in a request. -/
def encodedSegment (t : String) : String := Url.encoded Url.isSpecialInPath t.toList

variable {scheme : String} {r : List Char}

/-- Whether a character of an address is read as it stands. -/
def isPlain (c : Char) : Bool := 32 < c.toNat && c ≠ '\\'

/-- The parts of an address of the web in which nothing is read as something else. -/
structure IsWeb (scheme : String) (r : List Char) : Prop where
  scheme : scheme = "http" ∨ scheme = "https"
  /-- The host stands right behind the slashes. -/
  host : ∃ first left, r = first :: left ∧ first ≠ '/'
  plain : ∀ c ∈ r, isPlain c = true

theorem IsWeb.notControl (web : IsWeb scheme r) : ∀ c ∈ r, 32 < c.toNat := fun c hc =>
  of_decide_eq_true (Bool.and_eq_true_iff.1 (web.plain c hc)).1

theorem IsWeb.notBackslash (web : IsWeb scheme r) : ∀ c ∈ r, c ≠ '\\' := fun c hc =>
  of_decide_eq_true (Bool.and_eq_true_iff.1 (web.plain c hc)).2

theorem dropWhile_eq_self {p : Char → Bool} {s : List Char} (h : ∀ c ∈ s, p c = false) :
    s.dropWhile p = s := by
  cases s with
  | nil => rfl
  | cons c s => exact List.dropWhile_cons_of_neg (by simp [h c List.mem_cons_self])

theorem dropWhile_congr {p q : Char → Bool} {s : List Char} (h : ∀ c ∈ s, p c = q c) :
    s.dropWhile p = s.dropWhile q := by
  induction s with
  | nil => rfl
  | cons c s ih =>
    rw [List.forall_mem_cons] at h
    rw [List.dropWhile_cons, List.dropWhile_cons, h.1, ih h.2]

theorem parts_congr {p q : Char → Bool} {s : List Char} (h : ∀ c ∈ s, p c = q c) :
    parts p s = parts q s := by
  induction s with
  | nil => rfl
  | cons c s ih =>
    rw [List.forall_mem_cons] at h
    rw [parts, parts, h.1, ih h.2]

namespace Url

theorem cleaned_of_forall {s : List Char} (h : ∀ c ∈ s, 32 < c.toNat) : cleaned s = s := by
  have edge : ∀ c ∈ s, decide (c.toNat ≤ 32) = false := fun c hc =>
    decide_eq_false (Nat.not_le.2 (h c hc))
  have edge' : ∀ c ∈ s.reverse, decide (c.toNat ≤ 32) = false := fun c hc =>
    edge c (List.mem_reverse.1 hc)
  unfold cleaned
  simp only [dropWhile_eq_self edge, dropWhile_eq_self edge', List.reverse_reverse]
  refine List.filter_eq_self.2 fun c hc => ?_
  have above := h c hc
  have kept : c ≠ '\t' ∧ c ≠ '\n' ∧ c ≠ '\r' := by
    refine ⟨?_, ?_, ?_⟩ <;> rintro rfl <;> exact absurd above (by decide)
  simpa [and_assoc] using kept

theorem path_restOf (s : List Char) : (Rest.of s).path = s.takeWhile (!endsPath ·) := by
  show (s.takeWhile (· ≠ '#')).takeWhile (· ≠ '?') = s.takeWhile (!endsPath ·)
  induction s with
  | nil => rfl
  | cons c s ih =>
    by_cases sign : c = '#'
    · rw [sign]
      rfl
    · by_cases question : c = '?'
      · rw [question]
        rfl
      · rw [List.takeWhile_cons_of_pos (by simpa using sign),
          List.takeWhile_cons_of_pos (by simpa using question),
          List.takeWhile_cons_of_pos (by simp [endsPath, sign, question]), ih]

theorem family_ne_other (h : scheme = "http" ∨ scheme = "https") : Family.of scheme ≠ .other := by
  rcases h with rfl | rfl <;> decide

/-- What reading an address of the web makes of its parts. -/
theorem ofAuthority?_web (web : IsWeb scheme r) {u : Url} (h : ofAuthority? scheme r = some u) :
    u.scheme = scheme ∧ (∃ authority, u.authority = some authority ∧ InHost authority.toList) ∧
      u.path = ofSegments (removeDots
        ((parts (· = '/') (hostPath r).tail).map (encoded isSpecialInPath))) := by
  have web_family := family_ne_other web.scheme
  have slash : ∀ c ∈ r, (Family.of scheme).isSlash c = decide (c = '/') := by
    intro c hc
    simp [Family.isSlash, web.notBackslash c hc]
  have ends : ∀ c ∈ r, (!(Family.of scheme).endsHost c) = !endsHost c := by
    intro c hc
    rw [Family.endsHost, slash c hc, endsHost, endsPath, Bool.or_assoc]
  obtain ⟨authority, ha, h⟩ := Option.bind_eq_some_iff.1 h
  cases h
  refine ⟨rfl, ⟨authority, rfl, inHost_authority? web_family ha⟩, ?_⟩
  have inside : ∀ c ∈ (hostPath r).tail, c ∈ r := fun c hc =>
    (List.dropWhile_suffix _).subset ((List.takeWhile_prefix _).subset (List.mem_of_mem_tail hc))
  have path : (Rest.of (r.dropWhile fun c => !(Family.of scheme).endsHost c)).path = hostPath r := by
    rw [path_restOf, dropWhile_congr ends, hostPath]
  simp only [Rest.url, web_family, decide_false, Bool.false_and, Bool.false_eq_true, if_false, path]
  rw [Family.pathText, parts_congr fun c hc => slash c (inside c hc)]
  rfl

theorem read?_web (web : IsWeb scheme r) {raw : String}
    (text : raw.toList = scheme.toList ++ "://".toList ++ r) :
    read? none raw = ofAuthority? scheme r := by
  have plain : ∀ c ∈ raw.toList, 32 < c.toNat := by
    have front : (scheme.toList ++ "://".toList).all (fun c => 32 < c.toNat) = true := by
      rcases web.scheme with rfl | rfl <;> decide
    rw [text]
    exact List.forall_mem_append.2
      ⟨fun c hc => of_decide_eq_true (List.all_eq_true.1 front c hc), web.notControl⟩
  have split : splitScheme? raw.toList = some (scheme, '/' :: '/' :: r) := by
    rw [text]
    rcases web.scheme with rfl | rfl <;> rfl
  have family : ∃ port, Family.of scheme = .web port := by
    rcases web.scheme with rfl | rfl
    · exact ⟨80, rfl⟩
    · exact ⟨443, rfl⟩
  obtain ⟨port, family⟩ := family
  have slashes : ('/' :: '/' :: r).takeWhile (Family.web port).isSlash = ['/', '/'] := by
    obtain ⟨first, left, rfl, notSlash⟩ := web.host
    have ends : (Family.web port).isSlash first = false := by
      simp [Family.isSlash, notSlash, web.notBackslash first List.mem_cons_self]
    rw [List.takeWhile_cons_of_pos rfl, List.takeWhile_cons_of_pos rfl,
      List.takeWhile_cons_of_neg (by simp [ends])]
  unfold read?
  simp only [cleaned_of_forall plain, split, family, slashes]
  rfl

end Url

/-! ### Request targets -/

namespace Uri

theorem splitHost_eq_ok {h : HostState} {s host rest : List Char}
    (ok : splitHost h s = .ok (host, rest)) :
    host = s.takeWhile (!endsHost ·) ∧ rest = s.dropWhile (!endsHost ·) := by
  induction s generalizing h host rest with
  | nil =>
    rw [splitHost] at ok
    split at ok
    · cases ok
      exact ⟨rfl, rfl⟩
    · cases ok
  | cons c s ih =>
    have ending : (decide (c = '/') || decide (c = '?') || decide (c = '#')) = endsHost c := by
      rw [endsHost, endsPath, Bool.or_assoc]
    rw [splitHost, ending] at ok
    cases hc : endsHost c with
    | true =>
      rw [hc, if_pos rfl] at ok
      split at ok
      · cases ok
        rw [List.takeWhile_cons_of_neg (by simp [hc]), List.dropWhile_cons_of_neg (by simp [hc])]
        exact ⟨rfl, rfl⟩
      · cases ok
    | false =>
      rw [hc, if_neg Bool.false_ne_true] at ok
      cases hstep : h.step c with
      | error f => rw [hstep] at ok; cases ok
      | ok h' =>
        cases behind : splitHost h' s with
        | error f => simp only [hstep, bind, Except.bind, behind] at ok; cases ok
        | ok parts =>
          obtain ⟨front, left⟩ := parts
          simp only [hstep, bind, Except.bind, behind] at ok
          cases ok
          obtain ⟨rfl, rfl⟩ := ih behind
          rw [List.takeWhile_cons_of_pos (by simp [hc]), List.dropWhile_cons_of_pos (by simp [hc])]
          exact ⟨rfl, rfl⟩

theorem readPath_eq_ok {s path : List Char} {query : Option (List Char)}
    (ok : readPath s = .ok (path, query)) : path = s.takeWhile (!endsPath ·) := by
  induction s generalizing path query with
  | nil =>
    cases ok
    rfl
  | cons c s ih =>
    rw [readPath] at ok
    by_cases question : c = '?'
    · rw [if_pos question] at ok
      cases behind : readQuery s with
      | error f => rw [behind] at ok; cases ok
      | ok q =>
        rw [behind] at ok
        cases ok
        rw [question]
        rfl
    · rw [if_neg question] at ok
      by_cases sign : c = '#'
      · rw [if_pos sign] at ok
        cases ok
        rw [sign]
        rfl
      · rw [if_neg sign] at ok
        split at ok
        · cases behind : readPath s with
          | error f => rw [behind] at ok; cases ok
          | ok parts =>
            rw [behind] at ok
            cases ok
            rw [List.takeWhile_cons_of_pos (by simp [endsPath, question, sign]), ← ih behind]
        · cases ok

theorem readFull_of_read {s : String} {x : Uri} {t : List Char} (letter : s.toList = 'h' :: t)
    (h : read s = .ok x) : readFull s.toList = .ok x := by
  unfold read at h
  split at h
  · cases h
  · rw [letter] at h ⊢
    exact h

theorem splitScheme_web (web : scheme = "http" ∨ scheme = "https") (s : List Char) :
    splitScheme (scheme.toList ++ "://".toList ++ s) = .ok (some scheme.toList, s) := by
  rcases web with rfl | rfl <;> rfl

/-- The path of a request target begins behind the host. -/
theorem path_of_read {authority rest : List Char} (web : scheme = "http" ∨ scheme = "https")
    (hhost : InHost authority) {s : String} {x : Uri}
    (text : s.toList = scheme.toList ++ "://".toList ++ (authority ++ '/' :: rest))
    (h : read s = .ok x) :
    x.path = String.ofList (('/' :: rest).takeWhile (!endsPath ·)) := by
  have letter : ∃ t, s.toList = 'h' :: t := by
    rw [text]
    rcases web with rfl | rfl <;> exact ⟨_, rfl⟩
  obtain ⟨t, letter⟩ := letter
  have full := readFull_of_read letter h
  rw [text, readFull, splitScheme_web web] at full
  cases split : host (authority ++ '/' :: rest) with
  | error f => simp only [bind, Except.bind, split] at full; cases full
  | ok parts =>
    obtain ⟨front, behind⟩ := parts
    have nonempty : (authority ++ '/' :: rest).isEmpty = false := by simp
    rw [host, nonempty] at split
    -- Nothing in the host ends it, so the first slash behind it is the one of the path.
    obtain ⟨-, rest_eq⟩ := splitHost_eq_ok split
    have path_begins : behind = '/' :: rest := by
      rw [rest_eq, List.dropWhile_append_of_pos fun c hc => congrArg not (hhost c hc)]
      rfl
    simp only [bind, Except.bind, path_begins, host, nonempty, split] at full
    split at full
    · cases full
    · cases read_path : readPath ('/' :: rest) with
      | error f => rw [read_path] at full; cases full
      | ok parts =>
        obtain ⟨path, query⟩ := parts
        rw [read_path] at full
        cases full
        rw [readPath_eq_ok read_path]
        rfl

theorem pathPart_target {x : Uri} (clear : ∀ c ∈ x.path.toList, endsPath c = false)
    (given : x.path ≠ "") : pathPart x.target = x.path := by
  have root : x.path.isEmpty = false := by simpa using given
  rw [target, root, if_neg Bool.false_ne_true, pathPart, ← String.toList_inj, String.toList_ofList]
  cases x.query with
  | none => rw [Option.map_none, Option.getD_none, String.append_empty, Text.takeWhile_of_forall clear]
  | some q =>
    have query : (x.path ++ ("?" ++ q)).toList = x.path.toList ++ '?' :: q.toList := by
      rw [String.toList_append, String.toList_append]
      rfl
    rw [Option.map_some, Option.getD_some, query, Text.takeWhile_append_mark clear (by decide)]

end Uri

/-! ### From an address to its request -/

theorem inHost_encodedSegment {t : String} (h : '/' ∉ t.toList) : InHost (encodedSegment t).toList := by
  rw [encodedSegment, Url.encoded, String.toList_ofList]
  intro c hc
  rcases mem_percentEncode hc with ⟨inside, ordinary⟩ | ⟨b, hb⟩
  · have other : (!decide (c = '/') && !Url.isSpecialInPath c) = true := by
      have notSlash : c ≠ '/' := fun slash => h (slash ▸ inside)
      simp [notSlash, ordinary]
    exact endsHost_of (p := fun c => !decide (c = '/') && !Url.isSpecialInPath c) (by decide) (by decide)
      (by decide) other
  · exact inHost_percentByte b c hb

/-- Behind the path of an address a mark begins what is left of it. -/
theorem Url.text_eq {u : Url} {authority : String} (h : u.authority = some authority) :
    ∃ left, u.text.toList = u.scheme.toList ++ "://".toList ++
        (authority.toList ++ (u.path.toList ++ left)) ∧
      ∀ path : List Char, (∀ c ∈ path, endsPath c = false) →
        (path ++ left).takeWhile (!endsPath ·) = path := by
  obtain ⟨scheme, _, path, query, fragment⟩ := u
  cases h
  cases query with
  | some q =>
    refine ⟨'?' :: (q.toList ++ ((fragment.map ("#" ++ ·)).getD "").toList), ?_,
      fun path clear => Text.takeWhile_append_mark clear (by decide) _⟩
    simp [Url.text]
  | none =>
    cases fragment with
    | some f =>
      refine ⟨'#' :: f.toList, ?_, fun path clear => Text.takeWhile_append_mark clear (by decide) _⟩
      simp [Url.text]
    | none =>
      refine ⟨[], by simp [Url.text], fun path clear => ?_⟩
      rw [List.append_nil, Text.takeWhile_of_forall clear]

theorem endsPath_of_mem_ofSegments {ss : List String} (h : ∀ t ∈ ss, InHost t.toList) :
    ∀ c ∈ (ofSegments ss).toList, endsPath c = false := by
  have slash : endsPath '/' = false := by decide
  rw [toList_ofSegments, List.forall_mem_cons]
  refine ⟨slash, forall_mem_intercalate (by simpa using slash) fun s hs c hc => ?_⟩
  obtain ⟨t, ht, rfl⟩ := List.mem_map.1 hs
  exact (Bool.or_eq_false_iff.1 (h t ht c hc)).2

/-- The request for an address of the web asks for the path of the address without its dots. -/
theorem segments_target (web : IsWeb scheme r) {raw : String} {x : Uri} {s : List Char}
    (text : raw.toList = scheme.toList ++ "://".toList ++ r)
    (rooted : (addressPath raw).toList = '/' :: s) (h : Uri.ofAddress? raw = some x) :
    segments (pathPart x.target) = removeDots ((segments (addressPath raw)).map encodedSegment) := by
  obtain ⟨u, hu, hx⟩ := Option.bind_eq_some_iff.1 h
  have read : Uri.read u.text = .ok x := by
    unfold Url.uri? at hx
    cases hread : Uri.read u.text with
    | error f => rw [hread] at hx; cases hx
    | ok y => rw [hread] at hx; cases hx; rfl
  rw [Url.read?_web web text] at hu
  obtain ⟨hscheme, ⟨authority, hauthority, hhost⟩, hpath⟩ := Url.ofAuthority?_web web hu
  -- The path of the address, cut and encoded.
  have isScheme : IsScheme scheme.toList := by
    rcases web.scheme with rfl | rfl <;> exact isScheme_of_all (by decide)
  have path : hostPath r = '/' :: s := by
    rw [← rooted, addressPath_of_scheme isScheme text, String.toList_ofList]
  have encoded_eq : (parts (· = '/') s).map (Url.encoded Url.isSpecialInPath) =
      (segments (addressPath raw)).map encodedSegment := by
    rw [segments_eq rooted, List.map_map]
    exact List.map_congr_left fun p _ => by simp [encodedSegment]
  rw [path, List.tail_cons, encoded_eq] at hpath
  generalize hks : removeDots ((segments (addressPath raw)).map encodedSegment) = ks at hpath ⊢
  have kept : ∀ t ∈ ks, InHost t.toList := by
    intro t ht
    rw [← hks, DotRule.removeDots_eq] at ht
    rcases DotRule.mem_of_mem_resolve ht with rfl | ⟨inside, _⟩
    · exact inHost_nil
    · obtain ⟨segment, hsegment, rfl⟩ := List.mem_map.1 inside
      exact inHost_encodedSegment (slash_not_mem_segments segment hsegment)
  have some_segment : ks ≠ [] := by
    rw [← hks, DotRule.removeDots_eq]
    exact DotRule.resolve_ne_nil fun none_left =>
      segments_ne_nil rooted (List.map_eq_nil_iff.1 none_left)
  have clear := endsPath_of_mem_ofSegments kept
  -- It stands between the host and the query in the text that the target is read from.
  obtain ⟨left, utext, behind⟩ := Url.text_eq hauthority
  rw [hscheme, hpath, toList_ofSegments, List.cons_append] at utext
  have target_path : x.path = ofSegments ks := by
    rw [Uri.path_of_read web.scheme hhost utext read, ← List.cons_append, ← toList_ofSegments,
      behind _ clear, String.ofList_toList]
  have given : x.path ≠ "" := by
    intro none_left
    have chars := congrArg String.toList (target_path.symm.trans none_left)
    rw [toList_ofSegments] at chars
    cases chars
  rw [Uri.pathPart_target (target_path ▸ clear) given, target_path]
  exact segments_ofSegments some_segment fun t ht hslash =>
    absurd (kept t ht '/' hslash) (by decide)

end Casebook.Net
