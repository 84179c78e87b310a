import Casebook.Timeline

/-!
# Merged timelines

What stands in a timeline that is merged from outcomes: exactly the events of each source's last
outcome, in one order, and exactly the sources whose last outcome gave none. If every source speaks for
itself alone, no event belongs to a missing source.
-/

namespace Casebook

/-! ### The order of events -/

theorem Instant.eq_iff {a b : Instant} : a = b ↔ a.seconds = b.seconds ∧ a.nanos = b.nanos := by
  cases a
  cases b
  simp only [mk.injEq]

namespace Timeline

theorem inOrder_iff {a b : Event} : inOrder a b = true ↔
    a.occurredAt.seconds < b.occurredAt.seconds ∨
      a.occurredAt.seconds = b.occurredAt.seconds ∧
        (a.occurredAt.nanos < b.occurredAt.nanos ∨
          a.occurredAt.nanos = b.occurredAt.nanos ∧ a.source.rank ≤ b.source.rank) := by
  have rank : a.source ≤ b.source ↔ a.source.rank ≤ b.source.rank := Iff.rfl
  simp only [inOrder, Bool.or_eq_true, Bool.and_eq_true, decide_eq_true_eq, Instant.lt_def,
    Instant.eq_iff, rank]
  omega

theorem inOrder_trans (a b c : Event) (hab : inOrder a b = true) (hbc : inOrder b c = true) :
    inOrder a c = true := by
  rw [inOrder_iff] at hab hbc ⊢
  omega

theorem inOrder_total (a b : Event) : (inOrder a b || inOrder b a) = true := by
  rw [Bool.or_eq_true, inOrder_iff, inOrder_iff]
  omega

/-! ### What is merged -/

variable (outcomes : List (Source × Outcome))

/-- The last outcome of a source. -/
def last? (s : Source) : Option Outcome := outcomes.reverse.lookup s

def givenOf : List (Source × Outcome) :=
  Source.all.filterMap fun s => (last? outcomes s).map fun o => (s, o)

theorem mem_givenOf {s : Source} {o : Outcome} :
    (s, o) ∈ givenOf outcomes ↔ last? outcomes s = some o := by
  simp only [givenOf, List.mem_filterMap, Option.map_eq_some_iff, Prod.mk.injEq]
  constructor
  · rintro ⟨s', -, o', ho, rfl, rfl⟩
    exact ho
  · intro ho
    exact ⟨s, Source.mem_all s, o, ho, rfl, rfl⟩

theorem merge_eq : merge outcomes =
    { events := ((givenOf outcomes).flatMap fun g => g.2.events).mergeSort inOrder
      degraded :=
        !(SourceSet.ofList (((givenOf outcomes).filter fun g => !g.2.isSuccess).map (·.1))).isEmpty
      missing :=
        SourceSet.ofList (((givenOf outcomes).filter fun g => !g.2.isSuccess).map (·.1)) } := rfl

theorem mem_events_merge {v : Event} :
    v ∈ (merge outcomes).events ↔ ∃ s o, last? outcomes s = some o ∧ v ∈ o.events := by
  simp only [merge_eq, List.mem_mergeSort, List.mem_flatMap]
  constructor
  · rintro ⟨⟨s, o⟩, hg, hv⟩
    exact ⟨s, o, (mem_givenOf outcomes).1 hg, hv⟩
  · rintro ⟨s, o, ho, hv⟩
    exact ⟨(s, o), (mem_givenOf outcomes).2 ho, hv⟩

theorem mem_missing_merge {s : Source} :
    s ∈ (merge outcomes).missing ↔ ∃ o, last? outcomes s = some o ∧ o.isSuccess = false := by
  simp only [merge_eq, SourceSet.mem_ofList, List.mem_map, List.mem_filter, Bool.not_eq_true']
  constructor
  · rintro ⟨⟨s', o⟩, ⟨hg, failed⟩, rfl⟩
    exact ⟨o, (mem_givenOf outcomes).1 hg, failed⟩
  · rintro ⟨o, ho, failed⟩
    exact ⟨(s, o), ⟨(mem_givenOf outcomes).2 ho, failed⟩, rfl⟩

theorem degraded_merge_iff :
    (merge outcomes).degraded = true ↔ ∃ s, s ∈ (merge outcomes).missing := by
  rw [merge_eq]
  simp only [Bool.not_eq_true', SourceSet.isEmpty, List.isEmpty_eq_false_iff_exists_mem]
  rfl

theorem pairwise_events_merge :
    (merge outcomes).events.Pairwise fun a b => inOrder a b = true :=
  List.pairwise_mergeSort inOrder_trans inOrder_total _

/-! ### Sources that speak for themselves -/

theorem mem_of_last? {outcomes : List (Source × Outcome)} {s : Source} {o : Outcome}
    (h : last? outcomes s = some o) : (s, o) ∈ outcomes := by
  have found : ∀ l : List (Source × Outcome), l.lookup s = some o → (s, o) ∈ l := by
    intro l
    induction l with
    | nil => intro hl; cases hl
    | cons p l ih =>
      obtain ⟨t, o'⟩ := p
      intro hl
      rw [List.lookup_cons] at hl
      split at hl
      next same =>
        cases hl
        exact beq_iff_eq.1 same ▸ List.mem_cons_self
      next => exact List.mem_cons_of_mem _ (ih hl)
  exact List.mem_reverse.1 (found _ h)

theorem isSuccess_of_mem_events {o : Outcome} {v : Event} (h : v ∈ o.events) :
    o.isSuccess = true := by
  cases o with
  | success es => rfl
  | timeout => cases h
  | failed status => cases h
  | undecodable => cases h

/-- An event of a merged timeline stands there because of its own source, which is not missing. -/
theorem source_of_mem_events_merge {outcomes : List (Source × Outcome)}
    (own : ∀ s o, (s, o) ∈ outcomes → ∀ v ∈ o.events, v.source = s) {v : Event}
    (hv : v ∈ (merge outcomes).events) :
    v.source ∈ outcomes.map (·.1) ∧ v.source ∉ (merge outcomes).missing := by
  obtain ⟨s, o, ho, hvo⟩ := (mem_events_merge outcomes).1 hv
  have hmem := mem_of_last? ho
  have hs : v.source = s := own s o hmem v hvo
  rw [hs]
  refine ⟨List.mem_map_of_mem hmem, ?_⟩
  intro hmissing
  obtain ⟨o', ho', failed⟩ := (mem_missing_merge outcomes).1 hmissing
  rw [ho] at ho'
  cases ho'
  rw [isSuccess_of_mem_events hvo] at failed
  cases failed

theorem mem_of_mem_missing_merge {outcomes : List (Source × Outcome)} {s : Source}
    (h : s ∈ (merge outcomes).missing) : s ∈ outcomes.map (·.1) := by
  obtain ⟨o, ho, -⟩ := (mem_missing_merge outcomes).1 h
  exact List.mem_map_of_mem (mem_of_last? ho)

end Timeline
end Casebook
