import Casebook.Proofs.Timeline.Merging

/-!
# The arrangement of a merged timeline

The batches of the sources that gave events, one after the other, are put in order: by time, then by the
source that each event names for itself, and events that agree in both stay as they stood. Main
statement: these three conditions leave one list of events, and that is the one of the merged timeline.
-/

namespace Casebook

namespace Timeline

/-! ### Sorting keeps what is alike in its order -/

section
variable {α : Type} {le : α → α → Bool}

/-- A part of a list whose members may all stand before each other comes out of sorting as it was. -/
theorem filter_mergeSort (trans : ∀ a b c, le a b = true → le b c = true → le a c = true)
    (total : ∀ a b, (le a b || le b a) = true) {p : α → Bool}
    (alike : ∀ a b, p a = true → p b = true → le a b = true) (l : List α) :
    (l.mergeSort le).filter p = l.filter p := by
  have ordered : (l.filter p).Pairwise fun a b => le a b = true := by
    rw [List.pairwise_iff_forall_sublist]
    intro a b pair
    have ha : a ∈ l.filter p := pair.subset List.mem_cons_self
    have hb : b ∈ l.filter p := pair.subset (List.mem_cons_of_mem _ List.mem_cons_self)
    exact alike a b (List.mem_filter.1 ha).2 (List.mem_filter.1 hb).2
  have kept : (l.filter p).Sublist (l.mergeSort le) :=
    List.sublist_mergeSort trans total ordered List.filter_sublist
  have inside : (l.filter p).Sublist ((l.mergeSort le).filter p) := by
    have twice := kept.filter p
    rw [List.filter_filter] at twice
    simpa only [Bool.and_self] using twice
  have same : (l.filter p).length = ((l.mergeSort le).filter p).length :=
    ((List.mergeSort_perm l le).filter p).length_eq.symm
  exact (inside.eq_of_length same).symm

end

/-! ### Arrangements -/

def batch (outcomes : List (Source × Outcome)) (s : Source) : List Event :=
  match last? outcomes s with
  | some (.success es) => es
  | _ => []

/-- The events that the sources gave, one source after the other in their order of precedence. -/
def batches (outcomes : List (Source × Outcome)) : List Event :=
  Source.all.flatMap (batch outcomes)

def isOf (moment : Instant) (source : Source) (v : Event) : Bool :=
  v.occurredAt = moment && v.source = source

def Before (a b : Event) : Prop :=
  a.occurredAt < b.occurredAt ∨ a.occurredAt = b.occurredAt ∧ a.source ≤ b.source

/-- Some events are those given, in order of time and source, and otherwise in the order given. -/
structure Arranges (given es : List Event) : Prop where
  perm : es.Perm given
  sorted : es.Pairwise Before
  stable : ∀ moment source, es.filter (isOf moment source) = given.filter (isOf moment source)

theorem isOf_iff {moment : Instant} {source : Source} {v : Event} :
    isOf moment source v = true ↔ v.occurredAt = moment ∧ v.source = source := by
  simp only [isOf, Bool.and_eq_true, decide_eq_true_eq]

theorem before_iff_inOrder {a b : Event} : Before a b ↔ inOrder a b = true := by
  simp only [Before, inOrder, Bool.or_eq_true, Bool.and_eq_true, decide_eq_true_eq]

theorem Before.antisymm {a b : Event} (hab : Before a b) (hba : Before b a) :
    isOf a.occurredAt a.source b = true := by
  rw [before_iff_inOrder, inOrder_iff] at hab hba
  have moment : b.occurredAt = a.occurredAt := Instant.eq_iff.2 (by omega)
  have source : b.source = a.source := Source.rank_injective (by omega)
  exact isOf_iff.2 ⟨moment, source⟩

theorem arranges_mergeSort (given : List Event) : Arranges given (given.mergeSort inOrder) where
  perm := List.mergeSort_perm given inOrder
  sorted := (List.pairwise_mergeSort inOrder_trans inOrder_total given).imp before_iff_inOrder.2
  stable := by
    intro moment source
    refine filter_mergeSort inOrder_trans inOrder_total ?_ given
    intro a b ha hb
    obtain ⟨hma, hsa⟩ := isOf_iff.1 ha
    obtain ⟨hmb, hsb⟩ := isOf_iff.1 hb
    rw [← before_iff_inOrder]
    exact .inr ⟨hma.trans hmb.symm, Nat.le_of_eq (congrArg Source.rank (hsa.trans hsb.symm))⟩

/-! ### Only one arrangement -/

theorem mem_of_filter_eq {es es' : List Event}
    (same : ∀ moment source, es.filter (isOf moment source) = es'.filter (isOf moment source))
    {v : Event} (hv : v ∈ es) : v ∈ es' := by
  have own : v ∈ es.filter (isOf v.occurredAt v.source) :=
    List.mem_filter.2 ⟨hv, isOf_iff.2 ⟨rfl, rfl⟩⟩
  rw [same] at own
  exact (List.mem_filter.1 own).1

/-- Of two lists in order with the same events the first ones come at one moment from one source. -/
theorem isOf_head {a b : Event} {r r' : List Event} (sorted : (a :: r).Pairwise Before)
    (sorted' : (b :: r').Pairwise Before) (ha : a ∈ b :: r') (hb : b ∈ a :: r) :
    isOf a.occurredAt a.source b = true := by
  rcases List.mem_cons.1 ha with rfl | ha
  · exact isOf_iff.2 ⟨rfl, rfl⟩
  rcases List.mem_cons.1 hb with rfl | hb
  · exact isOf_iff.2 ⟨rfl, rfl⟩
  exact (List.rel_of_pairwise_cons sorted hb).antisymm (List.rel_of_pairwise_cons sorted' ha)

theorem eq_of_filter_eq {es es' : List Event} (sorted : es.Pairwise Before)
    (sorted' : es'.Pairwise Before)
    (same : ∀ moment source, es.filter (isOf moment source) = es'.filter (isOf moment source)) :
    es = es' := by
  induction es generalizing es' with
  | nil =>
    refine (List.eq_nil_iff_forall_not_mem.2 ?_).symm
    intro v hv
    cases mem_of_filter_eq (fun moment source => (same moment source).symm) hv
  | cons a r ih =>
    cases es' with
    | nil => cases mem_of_filter_eq same (v := a) List.mem_cons_self
    | cons b r' =>
      have ha : a ∈ b :: r' := mem_of_filter_eq same List.mem_cons_self
      have hb : b ∈ a :: r :=
        mem_of_filter_eq (fun moment source => (same moment source).symm) List.mem_cons_self
      have alike := isOf_head sorted sorted' ha hb
      have first : a = b := by
        have own := same a.occurredAt a.source
        rw [List.filter_cons_of_pos (isOf_iff.2 ⟨rfl, rfl⟩), List.filter_cons_of_pos alike] at own
        exact (List.cons.inj own).1
      subst first
      have rest : r = r' := by
        refine ih sorted.of_cons sorted'.of_cons ?_
        intro moment source
        have whole := same moment source
        rw [List.filter_cons, List.filter_cons] at whole
        split at whole
        · exact (List.cons.inj whole).2
        · exact whole
      rw [rest]

theorem Arranges.eq_iff {given es : List Event} (h : Arranges given es) (es' : List Event) :
    Arranges given es' ↔ es' = es := by
  constructor
  · intro h'
    refine eq_of_filter_eq h'.sorted h.sorted ?_
    intro moment source
    rw [h'.stable, h.stable]
  · rintro rfl
    exact h

/-- Two events of one moment and one source stand as they were given. -/
theorem Arranges.pair_iff {given es : List Event} (h : Arranges given es) {a b : Event}
    (alike : isOf a.occurredAt a.source b = true) :
    [a, b].Sublist es ↔ [a, b].Sublist given := by
  have own : isOf a.occurredAt a.source a = true := isOf_iff.2 ⟨rfl, rfl⟩
  have inPart : ∀ l : List Event,
      [a, b].Sublist l ↔ [a, b].Sublist (l.filter (isOf a.occurredAt a.source)) := by
    intro l
    constructor
    · intro pair
      have part := pair.filter (isOf a.occurredAt a.source)
      rw [List.filter_cons_of_pos own, List.filter_cons_of_pos alike, List.filter_nil] at part
      exact part
    · intro pair
      exact pair.trans List.filter_sublist
  rw [inPart es, inPart given, h.stable]

/-! ### Merged timelines -/

theorem batch_of_last? {outcomes : List (Source × Outcome)} {s : Source} {o : Outcome}
    (h : last? outcomes s = some o) : batch outcomes s = o.events := by
  rw [batch, h]
  cases o <;> rfl

theorem batch_of_none {outcomes : List (Source × Outcome)} {s : Source}
    (h : last? outcomes s = none) : batch outcomes s = [] := by
  rw [batch, h]

theorem flatMap_givenOf (outcomes : List (Source × Outcome)) :
    (givenOf outcomes).flatMap (fun g => g.2.events) = batches outcomes := by
  rw [givenOf, batches]
  induction Source.all with
  | nil => rfl
  | cons s ss ih =>
    rw [List.flatMap_cons, ← ih, List.filterMap_cons]
    cases hs : last? outcomes s with
    | none =>
      rw [batch_of_none hs]
      rfl
    | some o =>
      rw [batch_of_last? hs]
      rfl

theorem isSuccess_eq_false_iff {o : Outcome} : o.isSuccess = false ↔ ∀ es, o ≠ .success es := by
  cases o with
  | success es => exact ⟨fun h => (nomatch h), fun h => absurd rfl (h es)⟩
  | timeout => exact ⟨fun _ _ h => (nomatch h), fun _ => rfl⟩
  | failed status => exact ⟨fun _ _ h => (nomatch h), fun _ => rfl⟩
  | undecodable => exact ⟨fun _ _ h => (nomatch h), fun _ => rfl⟩

/-- A merged timeline is told by its parts: the one arrangement of the batches, and the sources without
one. -/
theorem merge_arranges (outcomes : List (Source × Outcome)) :
    (∀ es, Arranges (batches outcomes) es ↔ es = (merge outcomes).events) ∧
      (∀ a b, a.occurredAt = b.occurredAt → a.source = b.source →
        ([a, b].Sublist (merge outcomes).events ↔ [a, b].Sublist (batches outcomes))) ∧
      (∀ s, s ∈ (merge outcomes).missing ↔
        ∃ o, last? outcomes s = some o ∧ ∀ es, o ≠ .success es) ∧
      ((merge outcomes).degraded = true ↔ ∃ s, s ∈ (merge outcomes).missing) := by
  have arranged : Arranges (batches outcomes) (merge outcomes).events := by
    rw [merge_eq, flatMap_givenOf]
    exact arranges_mergeSort (batches outcomes)
  refine ⟨arranged.eq_iff, ?_, ?_, degraded_merge_iff outcomes⟩
  · intro a b moment source
    exact arranged.pair_iff (isOf_iff.2 ⟨moment.symm, source.symm⟩)
  · intro s
    simp only [mem_missing_merge, isSuccess_eq_false_iff]

end Timeline
end Casebook
