import Casebook.Proofs.Decimal.Digits
import Casebook.Proofs.Settings.Checking
import Casebook.Proofs.Text.Keyed
import Casebook.Proofs.Text.Substitute
import Casebook.Proofs.Text.Trimming

/-!
# Settings loaded again

Loaded settings are written down as variables and loaded from them: numbers and texts come back as they
were, and nothing is noted. A base comes back unless it ends with a blank, and it does where a blank stood
before the slashes at the end of its variable: blanks are taken off before the slashes, and only once.
-/

namespace Casebook

open Settings (Variables)
open Text (trim dropTrailing isBlank HeadVisible LastVisible)

/-! ### Numbers -/

namespace Decimal

theorem readOnto_of_digits {limit n : Nat} {ds : List Char} (digits : ∀ c ∈ ds, isDigit c = true)
    (within : ds.foldl (fun n c => n * 10 + (digitValue? c).getD 0) n ≤ limit) :
    readOnto limit n ds = .ok (ds.foldl (fun n c => n * 10 + (digitValue? c).getD 0) n) := by
  have grows : ∀ (ds : List Char) (n : Nat),
      n ≤ ds.foldl (fun n c => n * 10 + (digitValue? c).getD 0) n := by
    intro ds
    induction ds with
    | nil => simp
    | cons c ds ih =>
      intro n
      have := ih (n * 10 + (digitValue? c).getD 0)
      rw [List.foldl_cons]
      omega
  induction ds generalizing n with
  | nil => rfl
  | cons c ds ih =>
    obtain ⟨d, digit⟩ := Option.isSome_iff_exists.1 (digits c List.mem_cons_self)
    simp only [List.foldl_cons, digit, Option.getD_some] at within ⊢
    have room : n * 10 + d ≤ limit := Nat.le_trans (grows ds _) within
    simp only [readOnto, digit, if_pos room]
    exact ih (fun e he => digits e (List.mem_cons_of_mem c he)) within

theorem read_digits {limit n : Nat} (within : n ≤ limit) : read limit (digits n) = .ok n := by
  have whole : readOnto limit 0 (digits n) = .ok (value (digits n)) := by
    refine readOnto_of_digits (fun c hc => isDigit_of_mem_digits hc) ?_
    show value (digits n) ≤ limit
    rw [value_digits]
    exact within
  have noPlus : '+' ∉ digits n := fun plus => absurd (isDigit_of_mem_digits plus) (by decide)
  rw [value_digits] at whole
  unfold read
  split
  next none => exact absurd none (digits_ne_nil n)
  next plus => simp [plus] at noPlus
  next plus => simp [plus] at noPlus
  next => exact whole

end Decimal

namespace Span

theorem millis_ofMillis (n : Nat) : (ofMillis n).millis = n := by
  simp [ofMillis, millis]

end Span

/-! ### Bases -/

theorem Text.dropTrailing_replicate {d c : Char} (h : d ≠ c) (front : List Char) (n : Nat) :
    dropTrailing c (front ++ d :: List.replicate n c) = front ++ [d] := by
  have gone : dropTrailing c (List.replicate n c) = [] := by
    unfold dropTrailing
    simp
  rw [dropTrailing_append h, gone]

namespace TimelineSettings

/-- What becomes of the text of a base. -/
def rebase (raw : String) : Option String :=
  (some (String.ofList (dropTrailing '/' (trim raw.toList)))).filter (· ≠ "")

theorem rebase_eq_some_iff {raw url : String} : rebase raw = some url ↔ ∃ front d n,
    trim raw.toList = front ++ d :: List.replicate n '/' ∧ d ≠ '/' ∧ url.toList = front ++ [d] := by
  unfold rebase
  rw [Option.filter_eq_some_iff, Option.some_inj, ← String.toList_inj, String.toList_ofList,
    decide_eq_true_eq, ← String.toList_eq_nil_iff.ne]
  constructor
  · rintro ⟨rest, some_text⟩
    have split := List.rdropWhile_append_rtakeWhile (p := (· = '/')) (l := trim raw.toList)
    have last := List.rdropWhile_last_not (· = '/') (trim raw.toList)
    have slashes : ∀ c ∈ (trim raw.toList).rtakeWhile (· = '/'), c = '/' := fun c hc => by
      simpa using List.mem_rtakeWhile_imp hc
    have cut : (trim raw.toList).rdropWhile (· = '/') = url.toList := rest
    rw [cut] at split last
    rw [← List.dropLast_append_getLast some_text, List.append_assoc, List.singleton_append,
      List.eq_replicate_of_mem slashes] at split
    exact ⟨_, _, _, split.symm, by simpa using last some_text,
      (List.dropLast_append_getLast some_text).symm⟩
  · rintro ⟨front, d, n, split, notSlash, same⟩
    rw [split, Text.dropTrailing_replicate notSlash, same]
    exact ⟨rfl, by simp⟩

/-- A blank stands before the slashes at the end of a text. -/
def HasGap (raw : String) : Prop :=
  ∃ front c n, trim raw.toList = front ++ c :: List.replicate n '/' ∧ isBlank c = true

section
variable {raw url : String}

theorem ne_slash_of_isBlank {c : Char} (blank : isBlank c = true) : c ≠ '/' := by
  rintro rfl
  exact absurd blank (by decide)

theorem exists_rebase_of_gap (gap : HasGap raw) :
    ∃ url, rebase raw = some url ∧ ¬LastVisible url.toList := by
  obtain ⟨front, c, n, split, blank⟩ := gap
  refine ⟨String.ofList (front ++ [c]), rebase_eq_some_iff.2
    ⟨front, c, n, split, ne_slash_of_isBlank blank, String.toList_ofList⟩, fun visible => ?_⟩
  have last := visible c (by simp)
  rw [blank] at last
  cases last

theorem notEmpty_of_rebase (h : rebase raw = some url) : url ≠ "" := by
  obtain ⟨front, d, n, -, -, same⟩ := rebase_eq_some_iff.1 h
  rintro rfl
  simp at same

theorem headVisible_of_rebase (h : rebase raw = some url) : HeadVisible url.toList := by
  obtain ⟨front, d, n, split, -, same⟩ := rebase_eq_some_iff.1 h
  have head := (Text.trims_trim raw.toList).head
  rw [split, List.append_cons, ← same] at head
  exact head.of_append

theorem getLast?_of_rebase (h : rebase raw = some url) : url.toList.getLast? ≠ some '/' := by
  obtain ⟨front, d, n, -, notSlash, same⟩ := rebase_eq_some_iff.1 h
  rw [same]
  simpa using notSlash

theorem lastVisible_iff_of_rebase (h : rebase raw = some url) :
    LastVisible url.toList ↔ ¬HasGap raw := by
  constructor
  · intro visible gap
    obtain ⟨other, rebased, blank⟩ := exists_rebase_of_gap gap
    rw [h] at rebased
    cases rebased
    exact blank visible
  · intro none d last
    obtain ⟨front, e, n, split, -, same⟩ := rebase_eq_some_iff.1 h
    rw [same] at last
    obtain rfl : e = d := by simpa using last
    by_contra blank
    exact none ⟨front, e, n, split, by simpa using blank⟩

/-- The base that a text gives is given by itself, if it does not end with a blank. -/
theorem rebase_again_iff (h : rebase raw = some url) :
    rebase url = some url ↔ LastVisible url.toList := by
  constructor
  · intro again
    obtain ⟨front, d, n, split, -, same⟩ := rebase_eq_some_iff.1 again
    obtain ⟨before, behind, around, -, -⟩ := (Text.trims_trim url.toList).around
    -- Trimming does not make a text longer, so that no slash is left.
    have lengths := congrArg List.length around
    rw [split, same] at lengths
    simp only [List.length_append, List.length_cons, List.length_replicate, List.length_nil]
      at lengths
    have none : n = 0 := by omega
    rw [none, List.replicate_zero, ← same] at split
    rw [← split]
    exact (Text.trims_trim url.toList).last
  · intro visible
    obtain ⟨front, d, n, -, notSlash, same⟩ := rebase_eq_some_iff.1 h
    refine rebase_eq_some_iff.2 ⟨front, d, 0, ?_, notSlash, same⟩
    rw [Text.trim_of_visible (headVisible_of_rebase h) visible]
    exact same

end

def urlVariable : Source → String
  | .order => "ORDER_SERVICE_URL"
  | .payment => "PAYMENT_SERVICE_URL"
  | .fulfillment => "FULFILLMENT_SERVICE_URL"

theorem base?_eq (vars : Variables) (name : String) :
    base? vars name = (vars.get? name).bind rebase := by
  unfold base?
  cases vars.get? name with
  | none => rfl
  | some raw => rw [Option.map_some, Option.bind_some, rebase]

theorem urls_load (vars : Variables) (source : Source) :
    (load vars).value.urls.get source = (vars.get? (urlVariable source)).bind rebase := by
  cases source <;> exact base?_eq vars _

/-! ### Texts -/

/-- A text that is not empty and has no blanks around it. -/
structure IsSettled (text : String) : Prop where
  trimmed : Text.trimmed text = text
  notEmpty : text ≠ ""

theorem trimmed?_of_isSettled {vars : Variables} {name text : String} (settled : IsSettled text)
    (found : vars.get? name = some text) : vars.trimmed? name = some text := by
  unfold Variables.trimmed?
  simp [found, settled.trimmed, settled.notEmpty]

theorem isSettled_trimmed? {vars : Variables} {name standIn : String} (settled : IsSettled standIn) :
    IsSettled ((vars.trimmed? name).getD standIn) := by
  cases given : vars.trimmed? name with
  | none => exact settled
  | some text =>
    unfold Variables.trimmed? at given
    obtain ⟨same, notEmpty⟩ := Option.filter_eq_some_iff.1 given
    obtain ⟨raw, -, rfl⟩ := Option.map_eq_some_iff.1 same
    exact ⟨Text.trimmed_trimmed raw, by simpa using notEmpty⟩

/-! ### Settings as variables -/

def entries (s : TimelineSettings) : List (String × Option String) :=
  [("TIMELINE_CACHE_TTL_SECONDS", some (Decimal.natText s.completeTtl.seconds)),
    ("TIMELINE_DEGRADED_TTL_SECONDS", some (Decimal.natText s.degradedTtl.seconds)),
    ("TIMELINE_PER_SOURCE_TIMEOUT_MS", some (Decimal.natText s.perSourceTimeout.millis)),
    ("TIMELINE_AGGREGATION_DEADLINE_MS", some (Decimal.natText s.aggregationDeadline.millis)),
    ("ORDER_SERVICE_URL", s.urls.order), ("PAYMENT_SERVICE_URL", s.urls.payment),
    ("FULFILLMENT_SERVICE_URL", s.urls.fulfillment), ("CACHE_BACKEND_URL", some s.backendUrl),
    ("TIMELINE_UPSTREAM_PATH", some s.path)]

/-- The variables that say what some settings are; one that has no text is left out. -/
def toVariables (s : TimelineSettings) : Variables :=
  s.entries.filterMap fun e => e.2.map fun text => (e.1, text)

theorem get?_toVariables {s : TimelineSettings} {name : String} {text : Option String}
    (h : (name, text) ∈ s.entries) : s.toVariables.get? name = text := by
  have distinct : (s.entries.map (·.1)).Nodup := by simp [entries]
  have found := Keyed.find?_filterMap id distinct name
  rw [(Keyed.find?_eq_some_iff distinct).2 h] at found
  exact found

/-! ### Loading again -/

section
variable {vars : Variables} {name : String} {n k : Nat}

theorem number?_of_text (standIn : Nat) (within : n ≤ Decimal.max64)
    (found : vars.get? name = some (Decimal.natText n)) : number? vars name standIn = ⟨some n, []⟩ := by
  have visible : ∀ c ∈ Decimal.digits n, isBlank c = false := fun c hc =>
    Text.isBlank_of_isDigit (Decimal.isDigit_of_mem_digits hc)
  unfold number?
  simp only [found, Decimal.natText, String.toList_ofList, Text.trim_of_forall visible,
    Decimal.read_digits within]

end

section
variable {s : TimelineSettings} {name : String} {span : Span}

theorem seconds_again (standIn : Span) (whole : ∃ n ≤ Decimal.max64, span = .ofSeconds n)
    (h : (name, some (Decimal.natText span.seconds)) ∈ s.entries) :
    seconds s.toVariables name standIn = ⟨span, []⟩ := by
  obtain ⟨n, within, rfl⟩ := whole
  rw [Span.seconds_ofSeconds] at h
  unfold seconds
  rw [number?_of_text _ within (get?_toVariables h)]
  rfl

theorem millis_again (standIn : Span) (whole : ∃ n ≤ Decimal.max64, span = .ofMillis n)
    (h : (name, some (Decimal.natText span.millis)) ∈ s.entries) :
    millis s.toVariables name standIn = ⟨span, []⟩ := by
  obtain ⟨n, within, rfl⟩ := whole
  rw [Span.millis_ofMillis] at h
  unfold millis
  rw [number?_of_text _ within (get?_toVariables h)]
  rfl

theorem base?_again {url : Option String} (h : (name, url) ∈ s.entries) :
    base? s.toVariables name = url.bind rebase := by
  rw [base?_eq, get?_toVariables h]

theorem trimmed?_again {text : String} (settled : IsSettled text) (h : (name, some text) ∈ s.entries) :
    s.toVariables.trimmed? name = some text :=
  trimmed?_of_isSettled settled (get?_toVariables h)

theorem IsLoaded.backendUrl (h : s.IsLoaded) : IsSettled s.backendUrl := by
  obtain ⟨vars, rfl⟩ := h
  exact isSettled_trimmed? ⟨by decide, by decide⟩

theorem IsLoaded.path (h : s.IsLoaded) : IsSettled s.path := by
  obtain ⟨vars, rfl⟩ := h
  exact isSettled_trimmed? ⟨by decide, by decide⟩

/-- Settings with each base made anew of its own text. -/
def rebased (s : TimelineSettings) : TimelineSettings :=
  { s with
    urls := ⟨s.urls.order.bind rebase, s.urls.payment.bind rebase, s.urls.fulfillment.bind rebase⟩ }

theorem load_toVariables (loaded : s.IsLoaded) : load s.toVariables = ⟨s.rebased, []⟩ := by
  have complete : seconds s.toVariables "TIMELINE_CACHE_TTL_SECONDS" default.completeTtl =
      ⟨s.completeTtl, []⟩ := seconds_again _ loaded.completeTtl (by simp [entries])
  have degraded : seconds s.toVariables "TIMELINE_DEGRADED_TTL_SECONDS" default.degradedTtl =
      ⟨s.degradedTtl, []⟩ := seconds_again _ loaded.degradedTtl (by simp [entries])
  have perSource : millis s.toVariables "TIMELINE_PER_SOURCE_TIMEOUT_MS" default.perSourceTimeout =
      ⟨s.perSourceTimeout, []⟩ := millis_again _ loaded.perSourceTimeout (by simp [entries])
  have total : millis s.toVariables "TIMELINE_AGGREGATION_DEADLINE_MS" default.aggregationDeadline =
      ⟨s.aggregationDeadline, []⟩ := millis_again _ loaded.aggregationDeadline (by simp [entries])
  have order : base? s.toVariables "ORDER_SERVICE_URL" = s.urls.order.bind rebase :=
    base?_again (by simp [entries])
  have payment : base? s.toVariables "PAYMENT_SERVICE_URL" = s.urls.payment.bind rebase :=
    base?_again (by simp [entries])
  have fulfillment : base? s.toVariables "FULFILLMENT_SERVICE_URL" = s.urls.fulfillment.bind rebase :=
    base?_again (by simp [entries])
  have backend : s.toVariables.trimmed? "CACHE_BACKEND_URL" = some s.backendUrl :=
    trimmed?_again loaded.backendUrl (by simp [entries])
  have path : s.toVariables.trimmed? "TIMELINE_UPSTREAM_PATH" = some s.path :=
    trimmed?_again loaded.path (by simp [entries])
  unfold load
  rw [complete, degraded, perSource, total, order, payment, fulfillment, backend, path]
  rfl

/-! ### Bases that come back -/

theorem rebased_eq_iff : s.rebased = s ↔
    ∀ source url, s.urls.get source = some url → rebase url = some url := by
  have each : s.rebased = s ↔ ∀ source, (s.urls.get source).bind rebase = s.urls.get source := by
    constructor
    · intro same source
      have urls := congrArg (fun t => t.urls.get source) same
      cases source <;> exact urls
    · intro same
      have order := same .order
      have payment := same .payment
      have fulfillment := same .fulfillment
      simp only [Settings.BySource.get] at order payment fulfillment
      unfold rebased
      rw [order, payment, fulfillment]
  rw [each]
  refine forall_congr' fun source => ?_
  cases s.urls.get source with
  | none => simp
  | some url => simp

end

/-- The settings of some variables, and what becomes of them when they are written down as variables and
loaded again. -/
structure Reloads (vars : Variables) (s : TimelineSettings) : Prop where
  again : load s.toVariables = ⟨s.rebased, []⟩
  same : (load s.toVariables).value = s ↔
    ∀ source raw, vars.get? (urlVariable source) = some raw → ¬HasGap raw
  bases : ∀ source url, s.urls.get source = some url →
    url ≠ "" ∧ HeadVisible url.toList ∧ url.toList.getLast? ≠ some '/'
  trailing : ∀ source raw url, vars.get? (urlVariable source) = some raw →
    s.urls.get source = some url → (LastVisible url.toList ↔ ¬HasGap raw)

theorem rebased_load_eq_iff (vars : Variables) : (load vars).value.rebased = (load vars).value ↔
    ∀ source raw, vars.get? (urlVariable source) = some raw → ¬HasGap raw := by
  rw [rebased_eq_iff]
  refine forall_congr' fun source => ?_
  rw [urls_load]
  constructor
  · intro same raw given gap
    obtain ⟨url, rebased, blank⟩ := exists_rebase_of_gap gap
    rw [given, Option.bind_some] at same
    exact blank ((rebase_again_iff rebased).1 (same url rebased))
  · intro noGap url found
    obtain ⟨raw, given, rebased⟩ := Option.bind_eq_some_iff.1 found
    exact (rebase_again_iff rebased).2 ((lastVisible_iff_of_rebase rebased).2 (noGap raw given))

theorem load_reloads (vars : Variables) : Reloads vars (load vars).value where
  again := load_toVariables ⟨vars, rfl⟩
  same := by
    rw [load_toVariables ⟨vars, rfl⟩]
    exact rebased_load_eq_iff vars
  bases source url found := by
    rw [urls_load] at found
    obtain ⟨raw, -, rebased⟩ := Option.bind_eq_some_iff.1 found
    exact ⟨notEmpty_of_rebase rebased, headVisible_of_rebase rebased, getLast?_of_rebase rebased⟩
  trailing source raw url given found := by
    rw [urls_load, given, Option.bind_some] at found
    exact lastVisible_iff_of_rebase found

/-- A base that ends with a blank, and is another one when it is loaded again. -/
theorem reload_gapped :
    let s := (load [("ORDER_SERVICE_URL", "http://orders.internal /")]).value
    s.urls.order = some "http://orders.internal " ∧
      (load s.toVariables).value.urls.order = some "http://orders.internal" ∧
      (load s.toVariables).value ≠ s := by
  decide +kernel

end TimelineSettings
end Casebook
