import Casebook.Proofs.Http.Availability
import Casebook.Proofs.Text.Substitute
import Casebook.Proofs.Text.Trimming

/-!
# Sharing

Every response says which pages may read it, and nothing else in it does: the page from which the request
came, if the settings list its origin byte for byte, and any page only if they list none at all. A listed
origin that no header can carry is never matched, and does not open the list for others.
-/

namespace Casebook

open Settings (Variables)

/-! ### Listed origins -/

/-- A part of a text between two commas or the ends, without blanks around it, of which something is
left. -/
structure IsPiece (text piece : String) : Prop where
  cut : ∃ part, ',' ∉ part ∧ ',' :: (part ++ [',']) <:+: ',' :: (text.toList ++ [',']) ∧
    Text.Trims part piece.toList
  visible : piece ≠ ""

theorem mem_pieces_iff {text piece : String} :
    piece ∈ ApiSettings.pieces text ↔ IsPiece text piece := by
  have trimmed : ∀ part, Text.Trims part piece.toList ↔
      Text.trimmed (String.ofList part) = piece := by
    intro part
    rw [Text.trims_iff, ← String.toList_inj, Text.toList_trimmed, String.toList_ofList]
  unfold ApiSettings.pieces Text.cut
  simp only [List.mem_filter, List.mem_map, decide_eq_true_eq]
  constructor
  · rintro ⟨⟨_, ⟨part, cut, rfl⟩, same⟩, visible⟩
    obtain ⟨clear, between⟩ := (Text.mem_parts_iff ',').1 cut
    exact ⟨⟨part, clear, between, (trimmed part).2 same⟩, visible⟩
  · rintro ⟨⟨part, clear, between, trims⟩, visible⟩
    have cut := (Text.mem_parts_iff ',').2 ⟨clear, between⟩
    exact ⟨⟨_, ⟨part, cut, rfl⟩, (trimmed part).1 trims⟩, visible⟩

example : ApiSettings.pieces "http://a, ,http://b " = ["http://a", "http://b"] := by decide +kernel

/-- The origins that variables list. -/
def Lists (vars : Variables) (origin : String) : Prop :=
  ∃ text, vars.get? "TIMELINE_CORS_ORIGINS" = some text ∧ IsPiece text origin

theorem mem_corsOrigins_iff {vars : Variables} {origin : String} :
    origin ∈ (ApiSettings.load vars).value.corsOrigins ↔ Lists vars origin := by
  show origin ∈ ((vars.get? "TIMELINE_CORS_ORIGINS").map ApiSettings.pieces).getD [] ↔ _
  unfold Lists
  cases vars.get? "TIMELINE_CORS_ORIGINS" with
  | none => simp
  | some text => simp [mem_pieces_iff]

namespace Http

/-! ### Bytes of headers -/

/-- A byte that the value of a header may hold. -/
def IsFieldByte (b : UInt8) : Prop := b.toNat = 9 ∨ 32 ≤ b.toNat ∧ b.toNat ≠ 127

theorem isFieldByte_encode_iff {c : Char} : (∀ b ∈ String.utf8EncodeChar c, IsFieldByte b) ↔
    c = '\t' ∨ 32 ≤ c.toNat ∧ c.toNat ≠ 127 := by
  unfold IsFieldByte
  by_cases ascii : c.toNat < 0x80
  · have tab : c = '\t' ↔ c.toNat = 9 := by
      rw [← Char.toNat_inj]
      rfl
    rw [Json.encode_of_lt ascii, List.forall_mem_singleton, Json.byte_toNat (by omega), tab]
  · have high := Json.le_of_mem_encode (Nat.not_lt.1 ascii)
    refine iff_of_true (fun b hb => .inr ?_) (.inr ?_)
    · have := high b hb
      omega
    · omega

theorem isHeaderValue_iff {s : String} :
    isHeaderValue s = true ↔ ∀ b ∈ Bytes.ofText s, IsFieldByte b := by
  rw [← Bytes.ofChars_toList, Bytes.ofChars, List.forall_mem_flatMap, isHeaderValue, List.all_eq_true]
  refine forall₂_congr fun c _ => ?_
  rw [isFieldByte_encode_iff]
  simp

/-! ### Headers of responses -/

def allowOrigin : String := "access-control-allow-origin"

/-- The values of the headers of a name. -/
def Response.values (r : Response) (name : String) : List Bytes :=
  (r.headers.filter fun h => h.1 = name).map fun h => Bytes.ofText h.2

section
variable (r : Response) {name wanted : String} (value : String)

theorem Response.values_withHeader_self :
    (r.withHeader name value).values name = r.values name ++ [Bytes.ofText value] := by
  unfold Response.values Response.withHeader
  rw [List.filter_append, List.map_append]
  simp

theorem Response.values_withHeader_of_ne (h : name ≠ wanted) :
    (r.withHeader name value).values wanted = r.values wanted := by
  unfold Response.values Response.withHeader
  rw [List.filter_append, List.map_append]
  simp [h]

end

/-- What an answer to a request says of who may read it. -/
def Origins.granted (o : Origins) (req : Request) : List Bytes :=
  ((o.allowed? (req.header? "origin")).map Bytes.ofText).toList

section
variable {o : Origins} {req : Request} {r : Response}

theorem values_mark (silent : r.values allowOrigin = []) :
    (o.mark req r).values allowOrigin = o.granted req := by
  have varied : (r.withHeader "vary"
      "origin, access-control-request-method, access-control-request-headers").values allowOrigin =
      [] := by
    rw [r.values_withHeader_of_ne _ (by decide), silent]
  unfold Origins.mark Origins.granted
  cases o.allowed? (req.header? "origin") with
  | none => exact varied
  | some origin =>
    exact (Response.values_withHeader_self _ origin).trans (congrArg (· ++ [Bytes.ofText origin]) varied)

theorem values_preflight (maxAge : Nat) :
    (o.preflight maxAge req).values allowOrigin = o.granted req := by
  unfold Origins.preflight
  rw [Response.values_withHeader_of_ne _ _ (by decide), Response.values_withHeader_of_ne _ _ (by decide),
    Response.values_withHeader_of_ne _ _ (by decide), values_mark rfl]

theorem values_withMethods (route : Route) :
    (r.withMethods route).values allowOrigin = r.values allowOrigin :=
  r.values_withHeader_of_ne _ (by decide)

/-! ### Responses of the service -/

variable {s : Service} {P : Response → Prop}

/-- What work on a route answers is a text of some type, or nothing. -/
theorem gives_answerRoute (typed : ∀ status type body, P (.ofText status type body))
    (bare : ∀ status, P (.bare status)) (query : Option String) (route : Route) :
    Gives P (answerRoute s query route) := by
  have onCase : ∀ {written answer}, (∀ c, Gives P (answer c)) → Gives P (onCase s written answer) :=
    gives_onCase (fun _ => typed _ _ _) fun _ => typed _ _ _
  cases route with
  | caseView written =>
    show Gives P (answerCase s query written)
    rw [answerCase]
    split
    next => exact gives_ok (typed _ _ _)
    next =>
      refine onCase fun c => ?_
      split
      next => exact gives_map fun _ _ => typed _ _ _
      next => exact gives_ok (typed _ _ _)
  | refresh written => exact onCase fun c => gives_map fun _ _ => typed _ _ _
  | timeline written =>
    refine onCase fun c => ?_
    split
    next => exact gives_ok (bare 204)
    next => exact gives_ok (typed _ _ _)
  | live => exact gives_ok (typed _ _ _)
  | ready => exact gives_ok (typed _ _ _)
  | metrics => exact gives_ok (typed _ _ _)
  | description => exact gives_ok (typed _ _ _)

def Silent (r : Response) : Prop := r.values allowOrigin = []

theorem silent_answerCounted (route : Route) : Gives Silent (answerCounted s req route) := by
  refine gives_map fun x given => ?_
  rw [workOn] at given
  split at given
  next => exact gives_answerRoute (fun _ _ _ => rfl) (fun _ => rfl) req.query route _ _ given
  next =>
    cases given
    exact values_withMethods route

theorem granted_answerOn (site : Site) (route : Option Route) :
    Gives (fun r => r.values allowOrigin = site.origins.granted req) (site.answerOn s req route) := by
  unfold Site.answerOn
  split
  next =>
    cases route with
    | none => exact gives_ok (values_preflight site.maxAge)
    | some route => exact gives_ok ((values_withMethods route).trans (values_preflight site.maxAge))
  next =>
    refine gives_map fun x given => values_mark ?_
    cases route with
    | none =>
      cases given
      rfl
    | some route =>
      have late : Silent (.bare 408) := rfl
      exact gives_withTimeout site route late (silent_answerCounted route) _ _ given

theorem granted_answer (site : Site) :
    Gives (fun r => r.values allowOrigin = site.origins.granted req) (site.answer s req) := by
  refine gives_map fun x given => ?_
  have granted := granted_answerOn site (Route.ofPath? req.path) _ _ given
  have measured : x.1.withLength.values allowOrigin = site.origins.granted req := by
    unfold Response.withLength
    rw [Response.values_withHeader_of_ne _ _ (by decide), granted]
  show (if req.method = "HEAD" then _ else _ : Response).values allowOrigin = _
  split <;> exact measured

end

/-! ### Answers there are -/

section
variable {s : Service}

/-- An answer with a response: the service did not break down. -/
def Comes (a : Answer) : Prop := ∃ x, a = .ok x

theorem comes_map {α : Type} {e : Except Breakdown α} {f : α → Response × Service}
    (h : ∃ x, e = .ok x) : Comes (e.map f) := by
  obtain ⟨x, rfl⟩ := h
  exact ⟨f x, rfl⟩

theorem comes_onCase {written : String} {answer : CaseId → Answer} (h : ∀ c, Comes (answer c)) :
    Comes (onCase s written answer) := by
  rw [onCase]
  split
  next => exact ⟨_, rfl⟩
  next =>
    split
    next => exact ⟨_, rfl⟩
    next c _ => exact h c

theorem comes_answerRoute (shown : s.showsDeadlines = true) (query : Option String) (route : Route) :
    Comes (answerRoute s query route) := by
  cases route with
  | caseView written =>
    show Comes (answerCase s query written)
    rw [answerCase]
    split
    next => exact ⟨_, rfl⟩
    next =>
      refine comes_onCase fun c => ?_
      split
      next =>
        obtain ⟨t, after, _, given, -⟩ := Service.get_waits shown c
        exact comes_map ⟨_, given⟩
      next => exact ⟨_, rfl⟩
  | refresh written =>
    refine comes_onCase fun c => ?_
    obtain ⟨t, after, _, given, -⟩ := Service.refresh_waits shown c
    exact comes_map ⟨_, given⟩
  | timeline written =>
    refine comes_onCase fun c => ?_
    split
    next => exact ⟨_, rfl⟩
    next => exact ⟨_, rfl⟩
  | live => exact ⟨_, rfl⟩
  | ready => exact ⟨_, rfl⟩
  | metrics => exact ⟨_, rfl⟩
  | description => exact ⟨_, rfl⟩

theorem comes_answer (site : Site) (shown : s.showsDeadlines = true) (req : Request) :
    Comes (site.answer s req) := by
  have counted : ∀ route, Comes (answerCounted s req route) := by
    intro route
    refine comes_map ?_
    rw [workOn]
    split
    next => exact comes_answerRoute shown req.query route
    next => exact ⟨_, rfl⟩
  refine comes_map ?_
  unfold Site.answerOn
  split
  next => exact ⟨_, rfl⟩
  next =>
    refine comes_map ?_
    split
    next => exact ⟨_, rfl⟩
    next route _ => exact comes_map (counted route)

end

/-! ### All settings -/

/-- The bytes of the origins that variables list and a header can carry. -/
def Admits (vars : Variables) (b : Bytes) : Prop :=
  ∃ origin, Lists vars origin ∧ Bytes.ofText origin = b ∧ ∀ x ∈ b, IsFieldByte x

section
variable {origins : List String} {req : Request}

theorem allowed?_listed (b : Bytes) : (Origins.listed origins).allowed? (some b) =
    origins.find? fun origin => Bytes.ofText origin = b := rfl

theorem granted_of_mem {b : Bytes} (asked : req.header? "origin" = some b)
    (h : ∃ origin ∈ origins, Bytes.ofText origin = b) : (Origins.listed origins).granted req = [b] := by
  unfold Origins.granted
  rw [asked, allowed?_listed]
  cases found : origins.find? fun origin => Bytes.ofText origin = b with
  | none =>
    obtain ⟨origin, listed, same⟩ := h
    exact absurd same (by simpa using List.find?_eq_none.1 found origin listed)
  | some origin =>
    have same : Bytes.ofText origin = b := by simpa using List.find?_some found
    rw [Option.map_some, same]
    rfl

theorem granted_of_not_mem (h : ∀ b, req.header? "origin" = some b →
    ∀ origin ∈ origins, Bytes.ofText origin ≠ b) : (Origins.listed origins).granted req = [] := by
  unfold Origins.granted
  cases asked : req.header? "origin" with
  | none => rfl
  | some b =>
    have missing : (origins.find? fun origin => Bytes.ofText origin = b) = none :=
      List.find?_eq_none.2 fun origin listed => by simpa using h b asked origin listed
    rw [allowed?_listed, missing]
    rfl

end

/-- A site names the origin of a request in the response if it admits it, and no other. -/
structure Site.SharesWith (site : Site) (admits : Bytes → Prop) : Prop where
  granted : ∀ s req r after b, site.answer s req = .ok (r, after) → req.header? "origin" = some b →
    admits b → r.values allowOrigin = [b]
  withheld : ∀ s req r after, site.answer s req = .ok (r, after) →
    (∀ b, req.header? "origin" = some b → ¬admits b) → r.values allowOrigin = []

theorem Site.sharesWith_of_listed {site : Site} {vars : Variables}
    (origins : site.origins =
      .listed ((ApiSettings.load vars).value.corsOrigins.filter isHeaderValue)) :
    site.SharesWith (Admits vars) where
  granted := by
    intro s req r after b answered asked admitted
    rw [granted_answer site r after answered, origins]
    obtain ⟨origin, listed, rfl, legal⟩ := admitted
    refine granted_of_mem asked ⟨origin, List.mem_filter.2 ⟨?_, isHeaderValue_iff.2 legal⟩, rfl⟩
    exact mem_corsOrigins_iff.2 listed
  withheld := by
    intro s req r after answered none
    rw [granted_answer site r after answered, origins]
    refine granted_of_not_mem fun b asked origin listed same => none b asked ?_
    obtain ⟨listed, legal⟩ := List.mem_filter.1 listed
    exact ⟨origin, mem_corsOrigins_iff.1 listed, same, same ▸ isHeaderValue_iff.1 legal⟩

/-- What variables make of a site: whom it lets read. Requests have a response, unless the clock of the
machine ends before their deadlines. -/
structure Shares (vars : Variables) (deadline : Span) : Prop where
  listed : (∃ origin, Lists vars origin) → ¬Lists vars "*" →
    ∃ site, Site.ofSettings (ApiSettings.load vars).value deadline = .ok site ∧
      site.SharesWith (Admits vars)
  unlisted : (∀ origin, ¬Lists vars origin) →
    ∃ site, Site.ofSettings (ApiSettings.load vars).value deadline = .ok site ∧
      ∀ s req r after, site.answer s req = .ok (r, after) →
        r.values allowOrigin = [Bytes.ofText "*"]
  refused : Lists vars "*" →
    Site.ofSettings (ApiSettings.load vars).value deadline = .error .anyOrigin
  answered : ∀ (site : Site) (s : Service) (req : Request), s.showsDeadlines = true →
    ∃ x, site.answer s req = .ok x

section
variable {vars : Variables}

theorem ofSettings_unlisted (h : ∀ origin, ¬Lists vars origin) :
    Origins.ofSettings (ApiSettings.load vars).value = .ok .any := by
  have none : (ApiSettings.load vars).value.corsOrigins = [] :=
    List.eq_nil_iff_forall_not_mem.2 fun origin listed => h origin (mem_corsOrigins_iff.1 listed)
  unfold Origins.ofSettings ApiSettings.isProduction
  rw [none]
  rfl

theorem ofSettings_listed (h : ∃ origin, Lists vars origin) :
    Origins.ofSettings (ApiSettings.load vars).value =
      let origins := (ApiSettings.load vars).value.corsOrigins.filter isHeaderValue
      if Origins.wildcard ∈ origins then .error .anyOrigin else .ok (.listed origins) := by
  have production : (ApiSettings.load vars).value.isProduction = true := by
    obtain ⟨origin, listed⟩ := h
    have member := mem_corsOrigins_iff.2 listed
    unfold ApiSettings.isProduction
    cases origins : (ApiSettings.load vars).value.corsOrigins with
    | nil =>
      rw [origins] at member
      cases member
    | cons a l => rfl
  unfold Origins.ofSettings
  rw [production]
  rfl

example : Origins.ofSettings { ApiSettings.default with corsOrigins := ["http://a\x7f"] } =
    .ok (.listed []) := by
  decide

theorem wildcard_mem_iff :
    Origins.wildcard ∈ (ApiSettings.load vars).value.corsOrigins.filter isHeaderValue ↔
      Lists vars "*" := by
  have legal : isHeaderValue Origins.wildcard = true := by decide
  rw [List.mem_filter, mem_corsOrigins_iff, and_iff_left legal]
  rfl

end

theorem shares (vars : Variables) (deadline : Span) : Shares vars deadline where
  listed := by
    intro some_origin no_wildcard
    have origins := ofSettings_listed some_origin
    dsimp only at origins
    rw [if_neg (mt wildcard_mem_iff.1 no_wildcard)] at origins
    unfold Site.ofSettings
    rw [origins]
    exact ⟨_, rfl, Site.sharesWith_of_listed rfl⟩
  unlisted := by
    intro none
    unfold Site.ofSettings
    rw [ofSettings_unlisted none]
    exact ⟨_, rfl, fun s req r after answered => granted_answer _ r after answered⟩
  refused := by
    intro wildcard
    have origins := ofSettings_listed ⟨"*", wildcard⟩
    dsimp only at origins
    rw [if_pos (wildcard_mem_iff.2 wildcard)] at origins
    unfold Site.ofSettings
    rw [origins]
    rfl
  answered := fun site _ req shown => comes_answer site shown req

end Http
end Casebook
