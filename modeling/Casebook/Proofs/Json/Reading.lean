import Casebook.Proofs.Json.Members
import Casebook.Proofs.Json.RoundTrip

/-!
# What reading yields

A value that was read in full is no deeper than its reader had room for, its whole numbers fit in
sixty-four bits, and no token in it is faulty. What stands inside it is such a value again, and so is its
canonical form. So whatever was read and has no doubles in it is printed to a text that reads back as its
canonical form.
-/

namespace Casebook.Json

open Decimal (Binary64)

/-- A value that the full reader can yield with some room. -/
inductive Legible : Nat → Json → Prop where
  | null (room : Nat) : Legible room .null
  | bool (room : Nat) (b : Bool) : Legible room (.bool b)
  | int (room : Nat) {n : Int} (inRange : isExact (.int n) = true) : Legible room (.int n)
  | float (room : Nat) (d : Binary64) : Legible room (.float d)
  | string (room : Nat) (s : String) : Legible room (.string s)
  | array {room : Nat} {items : List Json} (all : ∀ v ∈ items, Legible room v) :
      Legible (room + 1) (.array items)
  | object {room : Nat} {ms : List (String × Json)} (all : ∀ m ∈ ms, Legible room m.2) :
      Legible (room + 1) (.object ms)

/-- A value all of whose numbers are integers. -/
inductive IsWhole : Json → Prop where
  | null : IsWhole .null
  | bool (b : Bool) : IsWhole (.bool b)
  | int (n : Int) : IsWhole (.int n)
  | string (s : String) : IsWhole (.string s)
  | array {items : List Json} (all : ∀ v ∈ items, IsWhole v) : IsWhole (.array items)
  | object {ms : List (String × Json)} (all : ∀ m ∈ ms, IsWhole m.2) : IsWhole (.object ms)

/-! ### Values inside values -/

theorem depthItems_le_iff {items : List Json} {n : Nat} :
    depthItems items ≤ n ↔ ∀ v ∈ items, depth v ≤ n := by
  induction items with
  | nil => simp [depthItems]
  | cons v r ih => rw [depthItems, Nat.max_le, ih, List.forall_mem_cons]

theorem depthMembers_le_iff {ms : List (String × Json)} {n : Nat} :
    depthMembers ms ≤ n ↔ ∀ m ∈ ms, depth m.2 ≤ n := by
  induction ms with
  | nil => simp [depthMembers]
  | cons m r ih => rw [depthMembers, Nat.max_le, ih, List.forall_mem_cons]

theorem isExactItems_iff {items : List Json} :
    isExactItems items = true ↔ ∀ v ∈ items, isExact v = true := by
  induction items with
  | nil => simp [isExactItems]
  | cons v r ih => rw [isExactItems, Bool.and_eq_true, ih, List.forall_mem_cons]

theorem isExactMembers_iff {ms : List (String × Json)} :
    isExactMembers ms = true ↔ ∀ m ∈ ms, isExact m.2 = true := by
  induction ms with
  | nil => simp [isExactMembers]
  | cons m r ih => rw [isExactMembers, Bool.and_eq_true, ih, List.forall_mem_cons]

theorem Legible.mono {room more : Nat} {v : Json} (h : Legible room v) (le : room ≤ more) :
    Legible more v := by
  induction h generalizing more with
  | null => exact .null more
  | bool _ b => exact .bool more b
  | int _ inRange => exact .int more inRange
  | float _ d => exact .float more d
  | string _ s => exact .string more s
  | array _ ih =>
    obtain ⟨more, rfl⟩ := Nat.exists_eq_add_of_le' le
    exact .array fun v hv => ih v hv (Nat.le_add_left _ more)
  | object _ ih =>
    obtain ⟨more, rfl⟩ := Nat.exists_eq_add_of_le' le
    exact .object fun m hm => ih m hm (Nat.le_add_left _ more)

theorem Legible.depth_le {room : Nat} {v : Json} (h : Legible room v) : depth v ≤ room := by
  induction h with
  | array _ ih =>
    rw [depth]
    exact Nat.succ_le_succ (depthItems_le_iff.2 ih)
  | object _ ih =>
    rw [depth]
    exact Nat.succ_le_succ (depthMembers_le_iff.2 ih)
  | _ => exact Nat.zero_le _

theorem Legible.isExact {room : Nat} {v : Json} (h : Legible room v) (whole : IsWhole v) :
    isExact v = true := by
  induction h with
  | int _ inRange => exact inRange
  | float => cases whole
  | array _ ih =>
    cases whole with
    | array all => exact isExactItems_iff.2 fun v hv => ih v hv (all v hv)
  | object _ ih =>
    cases whole with
    | object all => exact isExactMembers_iff.2 fun m hm => ih m hm (all m hm)
  | _ => rfl

theorem Legible.of_mem {room : Nat} {items : List Json} {v : Json}
    (h : Legible room (.array items)) (hv : v ∈ items) : Legible room v := by
  cases h with
  | @array room _ all => exact (all v hv).mono (Nat.le_succ room)

theorem Legible.of_last? {room : Nat} {name : String} {v w : Json} (h : Legible room v)
    (member : v.last? name = some w) : Legible room w := by
  cases h with
  | @object room ms all => exact (all _ (mem_of_last? member)).mono (Nat.le_succ room)
  | _ => cases member

theorem Legible.canonical {room : Nat} {v : Json} (h : Legible room v) :
    Legible room v.canonical := by
  induction h with
  | null => exact .null _
  | bool _ b => exact .bool _ b
  | int _ inRange => exact .int _ inRange
  | float _ d => exact .float _ d
  | string _ s => exact .string _ s
  | array _ ih =>
    rw [Json.canonical, canonicalItems_eq]
    exact .array (List.forall_mem_map.2 ih)
  | object _ ih =>
    rw [Json.canonical]
    refine .object fun m hm => ?_
    obtain ⟨v, hv, same⟩ := exists_of_mem_canonical hm
    rw [same]
    exact ih _ hv

/-! ### Readers -/

/-- What a reader yields, if it yields something, has a property. -/
def Yields {α : Type} (P : α → Prop) (x : Except Stop (α × Bytes)) : Prop :=
  ∀ a r, x = .ok (a, r) → P a

section
variable {α β : Type} {P : α → Prop} {Q : β → Prop} {x y : Except Stop (α × Bytes)}

theorem yields_ok {a : α} (h : P a) (r : Bytes) : Yields P (.ok (a, r)) := by
  rintro _ _ ⟨⟩
  exact h

theorem yields_error (stop : Stop) : Yields P (.error stop) := fun _ _ h => (nomatch h)

theorem Yields.bind {f : α × Bytes → Except Stop (β × Bytes)} (hx : Yields P x)
    (hf : ∀ a r, P a → Yields Q (f (a, r))) : Yields Q (x >>= f) := by
  intro b r h
  rcases x with stop | ⟨a, r'⟩
  · cases h
  · exact hf a r' (hx a r' rfl) b r h

theorem yields_ite {c : Prop} [Decidable c] (hx : c → Yields P x) (hy : ¬c → Yields P y) :
    Yields P (if c then x else y) := by
  by_cases h : c
  · rw [if_pos h]
    exact hx h
  · rw [if_neg h]
    exact hy h

end

theorem yields_word {P : Json → Prop} {v : Json} (h : P v) (cs : List Char) (bs : Bytes) :
    Yields P (word v cs bs) := by
  induction cs generalizing bs with
  | nil => exact yields_ok h bs
  | cons c cs ih =>
    cases bs with
    | nil => exact yields_error []
    | cons b bs =>
      rw [word]
      exact yields_ite (fun _ => ih bs) fun _ => yields_error bs

theorem legible_of_numberValue? {negative : Bool} {whole : List Char} {part : Option (List Char)}
    {exponent : Option Int} {v : Json} (room : Nat)
    (h : numberValue? negative whole part exponent = some v) : Legible room v := by
  have limit : (1 <<< 64 : Nat) = 18446744073709551616 := rfl
  have half : (1 <<< 63 : Nat) = 9223372036854775808 := rfl
  simp only [numberValue?] at h
  split at h
  next small =>
    cases h
    simp only [Bool.and_eq_true, decide_eq_true_eq] at small
    refine .int room ?_
    simp only [isExact, Bool.and_eq_true, decide_eq_true_eq]
    omega
  next =>
    split at h
    next small =>
      cases h
      simp only [Bool.and_eq_true, decide_eq_true_eq] at small
      refine .int room ?_
      simp only [isExact, Bool.and_eq_true, decide_eq_true_eq]
      omega
    next =>
      obtain ⟨d, -, rfl⟩ := Option.map_eq_some_iff.1 h
      exact .float room d

theorem yields_number (room : Nat) (negative : Bool) (bs : Bytes) :
    Yields (Legible room) (number .full negative bs) := by
  rw [number]
  refine Yields.bind (P := fun _ => True) (fun _ _ _ => trivial) fun whole bs _ => ?_
  refine Yields.bind (P := fun _ => True) (fun _ _ _ => trivial) fun part bs _ => ?_
  refine Yields.bind (P := fun _ => True) (fun _ _ _ => trivial) fun exponent bs _ => ?_
  dsimp only
  cases h : numberValue? negative whole part exponent with
  | none => exact yields_error bs
  | some v => exact yields_ok (legible_of_numberValue? room h) bs

theorem yields_readText (fuel : Nat) (bs : Bytes) :
    Yields (fun s => ∃ t, s = some t) (readText .full fuel bs) := by
  rw [readText]
  refine Yields.bind (P := fun _ => True) (fun _ _ _ => trivial) fun content r _ => ?_
  dsimp only
  cases content.bind Bytes.toText? with
  | none => exact yields_error r
  | some s => exact yields_ok ⟨s, rfl⟩ r

/-- Members that all have a name and a legible value. -/
def LegibleMembers (room : Nat) (found : List (Option String × Json)) : Prop :=
  ∃ ms : List (String × Json), found = ms.map (fun m => (some m.1, m.2)) ∧ ∀ m ∈ ms, Legible room m.2

/-- What the three readers of values yield with this much fuel. -/
structure YieldsLegible (fuel : Nat) : Prop where
  value : ∀ room bs, Yields (Legible room) (value .full fuel room bs)
  items : ∀ room bs, Yields (fun vs => ∀ v ∈ vs, Legible room v) (items .full fuel room bs)
  members : ∀ room bs, Yields (LegibleMembers room) (members .full fuel room bs)

section
variable {fuel : Nat}

theorem yields_value (inside : YieldsLegible fuel) (room : Nat) (bs : Bytes) :
    Yields (Legible room) (value .full (fuel + 1) room bs) := by
  -- An array or an object is only opened where there is room for it.
  have opened : ¬(room = 0 && Rigor.full = .full) = true → room - 1 + 1 = room := by
    intro h
    simp only [decide_true, Bool.and_true, decide_eq_true_eq] at h
    omega
  rw [value]
  rcases skip bs with _ | ⟨b, r⟩
  · exact yields_error []
  refine yields_ite (fun _ => yields_word (.null room) _ r) fun _ => ?_
  refine yields_ite (fun _ => yields_word (.bool room true) _ r) fun _ => ?_
  refine yields_ite (fun _ => yields_word (.bool room false) _ r) fun _ => ?_
  refine yields_ite (fun _ => yields_number room _ r) fun _ => ?_
  refine yields_ite (fun _ => yields_number room _ _) fun _ => ?_
  refine yields_ite (fun _ => ?text) fun _ => yields_ite (fun _ => ?array) fun _ =>
    yields_ite (fun _ => ?object) fun _ => yields_error r
  case text =>
    refine (yields_readText fuel r).bind ?_
    rintro _ r ⟨s, rfl⟩
    exact yields_ok (.string room s) r
  case array =>
    refine yields_ite (fun _ => yields_error r) fun room' => ?_
    rcases skip r with _ | ⟨c, r'⟩
    · exact yields_error []
    refine yields_ite (fun _ => yields_ok ?_ r') fun _ => ?_
    · exact opened room' ▸ .array fun _ h => absurd h List.not_mem_nil
    · exact (inside.items (room - 1) _).bind fun vs r all =>
        yields_ok (opened room' ▸ .array all) r
  case object =>
    refine yields_ite (fun _ => yields_error r) fun room' => ?_
    rcases skip r with _ | ⟨c, r'⟩
    · exact yields_error []
    refine yields_ite (fun _ => yields_ok ?_ r') fun _ => ?_
    · exact opened room' ▸ .object fun _ h => absurd h List.not_mem_nil
    · refine (inside.members (room - 1) _).bind ?_
      rintro _ r ⟨ms, rfl, all⟩
      dsimp only
      rw [objectOf_named]
      exact yields_ok (opened room' ▸ .object all) r

theorem yields_items (inside : YieldsLegible fuel) (room : Nat) (bs : Bytes) :
    Yields (fun vs => ∀ v ∈ vs, Legible room v) (items .full (fuel + 1) room bs) := by
  rw [items]
  refine (inside.value room bs).bind fun v r hv => ?_
  dsimp only
  rcases skip r with _ | ⟨c, r⟩
  · exact yields_error []
  refine yields_ite (fun _ => yields_ok (List.forall_mem_singleton.2 hv) r) fun _ => ?_
  refine yields_ite (fun _ => ?_) fun _ => yields_error r
  exact (inside.items room r).bind fun vs r all =>
    yields_ok (List.forall_mem_cons.2 ⟨hv, all⟩) r

theorem yields_members (inside : YieldsLegible fuel) (room : Nat) (bs : Bytes) :
    Yields (LegibleMembers room) (members .full (fuel + 1) room bs) := by
  rw [members]
  rcases skip bs with _ | ⟨q, r⟩
  · exact yields_error []
  refine yields_ite (fun _ => yields_error r) fun _ => (yields_readText fuel r).bind ?_
  rintro _ r ⟨k, rfl⟩
  dsimp only
  rcases skip r with _ | ⟨c, r⟩
  · exact yields_error []
  refine yields_ite (fun _ => yields_error r) fun _ => (inside.value room r).bind fun v r hv => ?_
  dsimp only
  rcases skip r with _ | ⟨c, r⟩
  · exact yields_error []
  refine yields_ite (fun _ => yields_ok ?_ r) fun _ => yields_ite (fun _ => ?_) fun _ => yields_error r
  · exact ⟨[(k, v)], rfl, List.forall_mem_singleton.2 hv⟩
  · refine (inside.members room r).bind ?_
    rintro _ r ⟨ms, rfl, all⟩
    exact yields_ok ⟨(k, v) :: ms, rfl, List.forall_mem_cons.2 ⟨hv, all⟩⟩ r

end

theorem yieldsLegible (fuel : Nat) : YieldsLegible fuel := by
  induction fuel with
  | zero => exact ⟨fun _ bs => yields_error bs, fun _ bs => yields_error bs, fun _ bs => yields_error bs⟩
  | succ fuel ih => exact ⟨yields_value ih, yields_items ih, yields_members ih⟩

theorem legible_of_read {bs : Bytes} {v : Json} (h : read bs = .ok v) : Legible maxDepth v := by
  rw [read, document] at h
  rcases found : value .full (2 * bs.length + 2) maxDepth bs with stop | ⟨w, r⟩
  · rw [found] at h
    cases h
  · have legible := (yieldsLegible _).value maxDepth bs w r found
    rw [found] at h
    simp only [bind, Except.bind] at h
    split at h
    · cases h
      exact legible
    · cases h

/-- What stands in a document that was read is printed to a text that reads back as the same value in
its canonical form. -/
theorem Legible.read_text {v : Json} (h : Legible maxDepth v) (whole : IsWhole v.canonical) :
    read (Bytes.ofText v.canonical.text) = .ok v.canonical :=
  Json.read_text (h.canonical.isExact whole) h.canonical.depth_le

end Casebook.Json
