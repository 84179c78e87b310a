import Casebook.Proofs.Feed.Format
import Casebook.Proofs.Json.Stopping

/-!
# What faults tell

The fault of a refused body tells its length, the name of its shape and a reason in fixed words, into
which a line, the place of a record or the name of a shape is filled. No text, name or number of the
body has any part in it.
-/

namespace Casebook

/-! ### Alike documents -/

namespace Json

/-- Documents that differ only in their texts, names and numbers. -/
inductive Alike : Json → Json → Prop where
  | null : Alike .null .null
  | bool (b : Bool) : Alike (.bool b) (.bool b)
  | number {v w : Json} (hv : v.shape = "number") (hw : w.shape = "number") : Alike v w
  | string (s t : String) : Alike (.string s) (.string t)
  | array {vs ws : List Json} (items : List.Forall₂ Alike vs ws) : Alike (.array vs) (.array ws)
  | object {ms ns : List (String × Json)}
      (values : List.Forall₂ Alike (ms.map Prod.snd) (ns.map Prod.snd)) :
      Alike (.object ms) (.object ns)

def children : Json → List Json
  | .array vs => vs
  | .object ms => ms.map Prod.snd
  | _ => []

/-- What stands at a place: the way there, by the positions of items and members. -/
def along? : List Nat → Json → Option Json
  | [], v => some v
  | i :: place, v => v.children[i]?.bind (along? place)

theorem children_of_number {v : Json} (h : v.shape = "number") : v.children = [] := by
  cases v with
  | array vs => simp [shape] at h
  | object ms => simp [shape] at h
  | _ => rfl

theorem Alike.shape_eq {v w : Json} (h : Alike v w) : v.shape = w.shape := by
  cases h with
  | number hv hw => exact hv.trans hw.symm
  | _ => rfl

theorem Alike.children {v w : Json} (h : Alike v w) : List.Forall₂ Alike v.children w.children := by
  cases h with
  | number hv hw =>
    rw [children_of_number hv, children_of_number hw]
    exact .nil
  | array items => exact items
  | object values => exact values
  | _ => exact .nil

theorem Alike.along? {v w a b : Json} {place : List Nat} (h : Alike v w) (ha : v.along? place = some a)
    (hb : w.along? place = some b) : Alike a b := by
  induction place generalizing v w with
  | nil =>
    cases ha
    cases hb
    exact h
  | cons i place ih =>
    obtain ⟨c, hc, ha⟩ := Option.bind_eq_some_iff.1 ha
    obtain ⟨d, hd, hb⟩ := Option.bind_eq_some_iff.1 hb
    obtain ⟨hi, rfl⟩ := List.getElem?_eq_some_iff.1 hc
    obtain ⟨hj, rfl⟩ := List.getElem?_eq_some_iff.1 hd
    exact ih (h.children.get hi hj) ha hb

theorem along?_concat (v : Json) (place : List Nat) (i : Nat) :
    v.along? (place ++ [i]) = (v.along? place).bind fun u => u.children[i]? := by
  induction place generalizing v with
  | nil =>
    rw [List.nil_append, along?, along?, Option.bind_some]
    exact Option.bind_fun_some _
  | cons j place ih =>
    rw [List.cons_append, along?, along?, Option.bind_assoc]
    exact congrArg _ (funext ih)

end Json

namespace Feed

/-! ### The words of reasons -/

def shapes : List String := ["null", "bool", "number", "string", "array", "object"]

theorem shape_mem_shapes (v : Json) : v.shape ∈ shapes := by
  cases v <;> simp [Json.shape, shapes]

def recordTexts : List String :=
  shapes.map ("expected object, got " ++ ·) ++
    ["missing kind", "kind must be a non-empty string", "missing occurredAt",
      "occurredAt must be a string", "occurredAt is not an ISO-8601 timestamp"]

/-- The texts of the reasons for which a body can be refused. -/
inductive Told (body : Bytes) : String → Prop where
  | line {n : Nat} (first : 1 ≤ n) (last : n ≤ body.count 0x0a + 1) :
      Told body ("invalid JSON at line " ++ Decimal.natText n)
  | noItems : Told body "object without an items array"
  | notList : Told body "expected a list of records"
  | record {v : Json} {records : List Json} {i : Nat} {text : String}
      (read : Json.read body = .ok v) (carries : Carries v records) (within : i < records.length)
      (fixed : text ∈ recordTexts) : Told body ("record " ++ Decimal.natText i ++ ": " ++ text)

section
variable {body : Bytes} {f : Fault}

theorem message_mem_recordTexts {r : Json} {fault : RecordFault} (h : Fails r fault) :
    fault.message ∈ recordTexts := by
  cases h with
  | notObject =>
    exact List.mem_append_left _ (List.mem_map.2 ⟨r.shape, shape_mem_shapes r, rfl⟩)
  | _ => exact List.mem_append_right _ (by decide)

theorem FirstBad.at {records : List Json} {i : Nat} {fault : RecordFault}
    (bad : FirstBad records i fault) : ∃ r, records[i]? = some r ∧ Fails r fault := by
  induction bad with
  | here fails => exact ⟨_, rfl, fails⟩
  | later _ _ ih => exact ih

theorem Rejects.told (rejects : Rejects body f) : Told body f.reason.message := by
  cases rejects with
  | notJson unread =>
    obtain ⟨before, ⟨stop, -, split⟩, rfl⟩ := Json.read_eq_error_iff.1 unread
    refine .line (by omega) ?_
    -- The line ends before the stop are among those of the body.
    rw [split, List.count_append]
    omega
  | noItems => exact .noItems
  | notList => exact .notList
  | badRecord read carries bad =>
    obtain ⟨r, hr, fails⟩ := bad.at
    obtain ⟨within, -⟩ := List.getElem?_eq_some_iff.1 hr
    exact .record read carries within (message_mem_recordTexts fails)

theorem Rejects.bodyBytes_eq (rejects : Rejects body f) : f.bodyBytes = body.length := by
  cases rejects <;> rfl

theorem Rejects.shape_of_read {v : Json} (rejects : Rejects body f) (read : Json.read body = .ok v) :
    f.shape = v.shape := by
  cases rejects with
  | notJson unread => cases unread.symm.trans read
  | noItems read' _ => cases read'.symm.trans read; rfl
  | notList read' _ _ => cases read'.symm.trans read; rfl
  | badRecord read' _ _ => cases read'.symm.trans read; rfl

theorem Rejects.shape_of_unread {line : Nat} (rejects : Rejects body f)
    (unread : Json.read body = .error line) : f.shape = "invalid_json" := by
  cases rejects with
  | notJson => rfl
  | noItems read _ => cases read.symm.trans unread
  | notList read _ _ => cases read.symm.trans unread
  | badRecord read _ _ => cases read.symm.trans unread

theorem Rejects.shape_mem (rejects : Rejects body f) : f.shape ∈ "invalid_json" :: shapes := by
  rcases read : Json.read body with line | v
  · rw [rejects.shape_of_unread read]
    exact List.mem_cons_self
  · rw [rejects.shape_of_read read]
    exact List.mem_cons_of_mem _ (shape_mem_shapes v)

theorem Rejects.invalid_iff (rejects : Rejects body f) :
    f.shape = "invalid_json" ↔ ∀ v, Json.read body ≠ .ok v := by
  constructor
  · intro invalid v read
    have named := shape_mem_shapes v
    rw [← rejects.shape_of_read read, invalid] at named
    exact absurd named (by decide)
  · intro unread
    rcases read : Json.read body with line | v
    · exact rejects.shape_of_unread read
    · exact absurd read (unread v)

end

/-! ### Failing alike -/

/-- Where a document is refused: as a whole, or at its first bad record. -/
inductive RefusedAt (v : Json) : List Nat → Prop where
  | whole (none : ∀ records, ¬Carries v records) : RefusedAt v []
  | record {place : List Nat} {records : List Json} {i : Nat} {fault : RecordFault}
      (carries : Carries v records) (held : v.along? place = some (.array records))
      (bad : FirstBad records i fault) : RefusedAt v (place ++ [i])

/-- Bodies that fail at the same place and differ only in texts, names and numbers. Behind a stop they
may differ in anything. -/
inductive FailAlike (body other : Bytes) : Prop where
  | unread {before before' : Bytes} (stops : Json.StopsBehind body before)
      (stops' : Json.StopsBehind other before') (respelled : Json.Respelled before before')
  | refused {v w : Json} {place : List Nat} (read : Json.read body = .ok v)
      (read' : Json.read other = .ok w) (alike : Json.Alike v w) (refused : RefusedAt v place)
      (refused' : RefusedAt w place)

def RecordFault.blank : RecordFault → RecordFault
  | .notObject _ => .notObject ""
  | fault => fault

/-- The way in which a body fails: the reason with nothing filled in. -/
def Reason.blank : Reason → Reason
  | .notJson _ => .notJson 0
  | .badRecord _ fault => .badRecord 0 fault.blank
  | reason => reason

theorem RecordFault.eq_of_blank {fault fault' : RecordFault} (h : fault.blank = fault'.blank)
    (shapes : ∀ s s', fault = .notObject s → fault' = .notObject s' → s = s') : fault = fault' := by
  cases fault with
  | notObject s =>
    cases fault' with
    | notObject s' => rw [shapes s s' rfl rfl]
    | _ => cases h
  | _ =>
    cases fault' with
    | notObject => cases h
    | _ => exact h

theorem Reason.eq_of_blank {reason reason' : Reason} (h : reason.blank = reason'.blank)
    (lines : ∀ n n', reason = .notJson n → reason' = .notJson n' → n = n')
    (places : ∀ i i' fault fault', reason = .badRecord i fault → reason' = .badRecord i' fault' →
      i = i' ∧ ∀ s s', fault = .notObject s → fault' = .notObject s' → s = s') :
    reason = reason' := by
  cases reason with
  | notJson n =>
    cases reason' with
    | notJson n' => rw [lines n n' rfl rfl]
    | _ => cases h
  | badRecord i fault =>
    cases reason' with
    | badRecord i' fault' =>
      obtain ⟨rfl, shapes⟩ := places i i' fault fault' rfl rfl
      injection h with _ blank
      rw [RecordFault.eq_of_blank blank shapes]
    | _ => cases h
  | _ =>
    cases reason' with
    | notJson => cases h
    | badRecord => cases h
    | _ => exact h

section
variable {body : Bytes} {f f' : Fault}

theorem Rejects.eq (rejects : Rejects body f) (rejects' : Rejects body f') : f = f' :=
  Except.error.inj ((decode_of_rejects .order rejects).symm.trans (decode_of_rejects .order rejects'))

theorem Rejects.eq_of_stops {before : Bytes} (rejects : Rejects body f)
    (stops : Json.StopsBehind body before) :
    f = ⟨.notJson (1 + before.count 0x0a), body.length, "invalid_json"⟩ :=
  rejects.eq (.notJson (Json.read_eq_error_iff.2 ⟨before, stops, rfl⟩))

theorem Rejects.seen {v : Json} {place : List Nat} (rejects : Rejects body f)
    (read : Json.read body = .ok v) (refused : RefusedAt v place) :
    (∀ line, f.reason ≠ .notJson line) ∧
      ∀ i fault, f.reason = .badRecord i fault →
        ∃ way r, place = way ++ [i] ∧ v.along? place = some r ∧ Fails r fault := by
  cases refused with
  | whole none =>
    cases rejects with
    | notJson unread => cases unread.symm.trans read
    | noItems => exact ⟨fun _ => Reason.noConfusion, fun _ _ => Reason.noConfusion⟩
    | notList => exact ⟨fun _ => Reason.noConfusion, fun _ _ => Reason.noConfusion⟩
    | badRecord read' carries _ =>
      cases read'.symm.trans read
      exact absurd carries (none _)
  | @record way records i fault carries held bad =>
    -- There is one reason to refuse a body, so it is the one of the record at this place.
    cases rejects.eq (.badRecord read carries bad)
    refine ⟨fun _ => Reason.noConfusion, fun j fault' same => ?_⟩
    cases same
    obtain ⟨r, hr, fails⟩ := bad.at
    refine ⟨way, r, rfl, ?_, fails⟩
    rw [Json.along?_concat, held]
    exact hr

theorem Rejects.eq_of_refused {other : Bytes} {v w : Json} {place : List Nat}
    (rejects : Rejects body f) (rejects' : Rejects other f') (sameLength : body.length = other.length)
    (sameWay : f.reason.blank = f'.reason.blank) (read : Json.read body = .ok v)
    (read' : Json.read other = .ok w) (alike : Json.Alike v w) (refused : RefusedAt v place)
    (refused' : RefusedAt w place) : f = f' := by
  obtain ⟨readable, seen⟩ := rejects.seen read refused
  obtain ⟨-, seen'⟩ := rejects'.seen read' refused'
  have reasons : f.reason = f'.reason := by
    refine Reason.eq_of_blank sameWay (fun n _ unread _ => absurd unread (readable n)) ?_
    intro i i' fault fault' bad bad'
    obtain ⟨way, r, rfl, hr, fails⟩ := seen i fault bad
    obtain ⟨way', r', same, hr', fails'⟩ := seen' i' fault' bad'
    refine ⟨List.singleton_inj.1 (List.append_inj' same rfl).2, ?_⟩
    -- Both records stand at one place of alike documents, so a shape that is told is the same.
    rintro s s' rfl rfl
    cases fails
    cases fails'
    exact (alike.along? hr hr').shape_eq
  have bytes : f.bodyBytes = f'.bodyBytes := by
    rw [rejects.bodyBytes_eq, rejects'.bodyBytes_eq, sameLength]
  have shapes : f.shape = f'.shape := by
    rw [rejects.shape_of_read read, rejects'.shape_of_read read', alike.shape_eq]
  cases f
  cases f'
  cases reasons
  cases bytes
  cases shapes
  rfl

theorem FailAlike.eq {other : Bytes} (failAlike : FailAlike body other) (rejects : Rejects body f)
    (rejects' : Rejects other f') (sameLength : body.length = other.length)
    (sameWay : f.reason.blank = f'.reason.blank) : f = f' := by
  cases failAlike with
  | unread stops stops' respelled =>
    rw [rejects.eq_of_stops stops, rejects'.eq_of_stops stops', respelled.count_eq, sameLength]
  | refused read read' alike refused refused' =>
    exact rejects.eq_of_refused rejects' sameLength sameWay read read' alike refused refused'

end

/-- A fault tells the size of a body in fixed words, and does not tell apart bodies that fail alike. -/
theorem decode_tells_no_content :
    (∀ source body f, decode source body = .error f →
      f.bodyBytes = body.length ∧ f.shape ∈ "invalid_json" :: shapes ∧
      (f.shape = "invalid_json" ↔ ∀ v, Json.read body ≠ .ok v) ∧
      (∀ v, Json.read body = .ok v → f.shape = v.shape) ∧ Told body f.reason.message) ∧
    ∀ source source' body other f f', decode source body = .error f →
      decode source' other = .error f' → body.length = other.length → FailAlike body other →
      f.reason.blank = f'.reason.blank → f = f' := by
  refine ⟨?_, ?_⟩
  · intro source body f refused
    have rejects := ((decides_decode source body).error f).1 refused
    exact ⟨rejects.bodyBytes_eq, rejects.shape_mem, rejects.invalid_iff,
      fun _ read => rejects.shape_of_read read, rejects.told⟩
  · intro source source' body other f f' refused refused' sameLength failAlike sameWay
    have rejects := ((decides_decode source body).error f).1 refused
    have rejects' := ((decides_decode source' other).error f').1 refused'
    exact failAlike.eq rejects rejects' sameLength sameWay

def numbered (kind : String) (n : Int) : Json :=
  .object [("kind", .string kind), ("occurredAt", .string "2024-05-01T10:00:00Z"), ("n", .int n)]

/-- A listing of a good record and of a text where a record should be. -/
def listing (name note kind : String) (n : Int) : Json :=
  .object [(name, .string note), ("items", .array [numbered kind n, .string note])]

theorem alike_listing (name note kind name' note' kind' : String) (n n' : Int) :
    Json.Alike (listing name note kind n) (listing name' note' kind' n') := by
  have records : Json.Alike (numbered kind n) (numbered kind' n') :=
    .object (.cons (.string _ _) (.cons (.string _ _) (.cons (.number rfl rfl) .nil)))
  have texts : Json.Alike (.string note) (.string note') := .string note note'
  exact .object (.cons texts (.cons (.array (.cons records (.cons texts .nil))) .nil))

/-- A list with a line end, and no comma behind a text. -/
def uncommaed (note : String) : Bytes := Bytes.ofText ("[\n\"" ++ note ++ "\" 1]")

theorem failAlike_uncommaed : FailAlike (uncommaed "secret") (uncommaed "hidden") := by
  have stops : Json.StopsBehind (uncommaed "secret") (Bytes.ofText "[\n\"secret\" 1") :=
    ⟨Bytes.ofText "]", by rfl, by decide⟩
  have stops' : Json.StopsBehind (uncommaed "hidden") (Bytes.ofText "[\n\"hidden\" 1") :=
    ⟨Bytes.ofText "]", by rfl, by decide⟩
  have secret : Json.IsToken ([] ++ Bytes.ofText "secret" ++ [0x22]) := .inl ⟨8, _, by rfl⟩
  have hidden : Json.IsToken ([] ++ Bytes.ofText "hidden" ++ [0x22]) := .inl ⟨8, _, by rfl⟩
  have behind : Json.Respelled [0x22, 0x20, 0x31] [0x22, 0x20, 0x31] :=
    .same _ (.same _ (.same _ .nil))
  exact .unread stops stops' (.same 0x5b (.same 0x0a (.same 0x22 (.part secret hidden behind))))

theorem decode_tells_no_content_listing :
    (∃ f f', decode .order (Bytes.ofText (listing "secret" "do-not-log" "paid" 7).text) = .error f ∧
      decode .order (Bytes.ofText (listing "key" "hidden_word" "sent" 12).text) = .error f' ∧
      f.reason.message = "record 1: expected object, got string" ∧ f = f') ∧
    ∃ g g', decode .order (uncommaed "secret") = .error g ∧
      decode .order (uncommaed "hidden") = .error g' ∧
      g.reason.message = "invalid JSON at line 2" ∧ g = g' := by
  have sameLength : (Bytes.ofText (listing "secret" "do-not-log" "paid" 7).text).length =
      (Bytes.ofText (listing "key" "hidden_word" "sent" 12).text).length := by decide
  have read : Json.read (Bytes.ofText (listing "secret" "do-not-log" "paid" 7).text) = .ok _ :=
    Json.read_text (by decide) (by decide)
  have read' : Json.read (Bytes.ofText (listing "key" "hidden_word" "sent" 12).text) = .ok _ :=
    Json.read_text (by decide) (by decide)
  have carries (name note kind : String) (n : Int) :
      Carries (listing name note kind n) [numbered kind n, .string note] := .envelope (by rfl)
  have bad {kind note : String} {n : Int} (visible : ∃ c ∈ kind.toList, Text.isBlank c = false) :
      FirstBad [numbered kind n, .string note] 1 (.notObject "string") :=
    .later ⟨⟨_, rfl⟩, ⟨kind, by rfl, visible⟩, _, _, by rfl, by rfl⟩
      (.here (.notObject fun _ => Json.noConfusion))
  have refusedAt (name note kind : String) (n : Int)
      (visible : ∃ c ∈ kind.toList, Text.isBlank c = false) :
      RefusedAt (listing name note kind n) ([1] ++ [1]) :=
    .record (carries name note kind n) rfl (bad visible)
  have paid : ∃ c ∈ "paid".toList, Text.isBlank c = false := ⟨'p', by decide, by decide⟩
  have sent : ∃ c ∈ "sent".toList, Text.isBlank c = false := ⟨'s', by decide, by decide⟩
  have refused := decode_of_rejects .order (.badRecord read (carries ..) (bad paid))
  have refused' := decode_of_rejects .order (.badRecord read' (carries ..) (bad sent))
  have failAlike := FailAlike.refused read read' (alike_listing ..)
    (refusedAt _ _ _ _ paid) (refusedAt _ _ _ _ sent)
  have unread : decode .order (uncommaed "secret") = .error _ :=
    decode_of_rejects .order (@Rejects.notJson _ 2 (by rfl))
  have unread' : decode .order (uncommaed "hidden") = .error _ :=
    decode_of_rejects .order (@Rejects.notJson _ 2 (by rfl))
  exact ⟨⟨_, _, refused, refused', by rfl,
      decode_tells_no_content.2 _ _ _ _ _ _ refused refused' sameLength failAlike rfl⟩,
    _, _, unread, unread', by rfl,
    decode_tells_no_content.2 _ _ _ _ _ _ unread unread' (by decide) failAlike_uncommaed rfl⟩

end Feed
end Casebook
