import Casebook.Proofs.Timeline.Arrangement
import Casebook.Samples

/-!
# Sources apart

A source that fails takes its own events out of the timeline and nothing else: the events of the others
stay where they stood, and how the source failed cannot be seen. The events of a merged timeline can be
taken apart by source and merged again without a trace.
-/

namespace Casebook

theorem SourceSet.eq_of_mem_iff {a b : SourceSet} (h : ∀ s, s ∈ a ↔ s ∈ b) : a = b := by
  obtain ⟨l, hl⟩ := a
  obtain ⟨l', hl'⟩ := b
  have same : l = l' := by
    rw [← hl, ← hl']
    refine List.filter_congr fun s _ => ?_
    exact decide_eq_decide.2 (h s)
  subst same
  rfl

namespace Timeline

/-! ### Arrangements of parts -/

/-- Events that agree moment by moment and source by source are the same events. -/
theorem perm_of_filter_eq {es es' : List Event}
    (same : ∀ moment source, es.filter (isOf moment source) = es'.filter (isOf moment source)) :
    es.Perm es' := by
  refine List.perm_iff_count.2 fun v => ?_
  have own : isOf v.occurredAt v.source v = true := isOf_iff.2 ⟨rfl, rfl⟩
  rw [← List.count_filter own, ← List.count_filter (l := es') own, same]

theorem Arranges.filter {given es : List Event} (h : Arranges given es) (p : Event → Bool) :
    Arranges (given.filter p) (es.filter p) where
  perm := h.perm.filter p
  sorted := h.sorted.filter p
  stable := by
    intro moment source
    have swap : ∀ l : List Event, (l.filter p).filter (isOf moment source) =
        (l.filter (isOf moment source)).filter p := by
      intro l
      rw [List.filter_filter, List.filter_filter]
      exact List.filter_congr fun v _ => Bool.and_comm _ _
    rw [swap, swap, h.stable]

theorem arranges_merge (outcomes : List (Source × Outcome)) :
    Arranges (batches outcomes) (merge outcomes).events := by
  rw [merge_eq, flatMap_givenOf]
  exact arranges_mergeSort (batches outcomes)

/-! ### Batches of one source -/

/-- Every batch has events of its own source only. -/
def SpeakForThemselves (outcomes : List (Source × Outcome)) : Prop :=
  ∀ s es, last? outcomes s = some (.success es) → ∀ v ∈ es, v.source = s

theorem SpeakForThemselves.source_of_mem {outcomes : List (Source × Outcome)}
    (own : SpeakForThemselves outcomes) {s : Source} {v : Event} (hv : v ∈ batch outcomes s) :
    v.source = s := by
  rw [batch] at hv
  split at hv
  next es given => exact own s es given v hv
  next => cases hv

/-- What is picked from one source alone is picked from its batch alone. -/
theorem filter_batches {outcomes : List (Source × Outcome)} {p : Event → Bool} {s : Source}
    (none : ∀ t, t ≠ s → (batch outcomes t).filter p = []) :
    (batches outcomes).filter p = (batch outcomes s).filter p := by
  have order := none .order
  have payment := none .payment
  have fulfillment := none .fulfillment
  simp only [batches, Source.all, List.flatMap_cons, List.flatMap_nil, List.filter_append,
    List.append_nil]
  cases s with
  | order => simp only [payment (by decide), fulfillment (by decide), List.append_nil]
  | payment => simp only [order (by decide), fulfillment (by decide), List.append_nil, List.nil_append]
  | fulfillment => simp only [order (by decide), payment (by decide), List.nil_append]

/-! ### One source fails -/

/-- The outcomes of `changed` are those of `outcomes` with the outcome of one source put in. -/
def Replaces (outcomes changed : List (Source × Outcome)) (s : Source) (o : Outcome) : Prop :=
  ∀ t, last? changed t = if t = s then some o else last? outcomes t

theorem replaces_append (outcomes : List (Source × Outcome)) (s : Source) (o : Outcome) :
    Replaces outcomes (outcomes ++ [(s, o)]) s o := by
  intro t
  rw [last?, List.reverse_append, List.reverse_singleton, List.singleton_append, List.lookup_cons]
  by_cases same : t = s
  · rw [if_pos same, beq_iff_eq.2 same]
  · rw [if_neg same, beq_eq_false_iff_ne.2 same]
    rfl

/-- The timeline with one source missing. -/
def without (t : Timeline) (s : Source) : Timeline :=
  { events := t.events.filter fun v => v.source ≠ s
    degraded := true
    missing := SourceSet.ofList (s :: t.missing.members) }

section
variable {outcomes changed : List (Source × Outcome)} {s : Source} {o : Outcome}

theorem Replaces.batch_eq (h : Replaces outcomes changed s o) (t : Source) :
    batch changed t = if t = s then o.events else batch outcomes t := by
  by_cases same : t = s
  · have given := h t
    rw [if_pos same] at given ⊢
    exact batch_of_last? given
  · have given := h t
    rw [if_neg same] at given ⊢
    rw [batch, batch, given]

theorem events_of_failed (failed : o.isSuccess = false) : o.events = [] := by
  refine List.eq_nil_iff_forall_not_mem.2 fun v hv => ?_
  rw [isSuccess_of_mem_events hv] at failed
  cases failed

theorem Replaces.batches_eq (h : Replaces outcomes changed s o) (failed : o.isSuccess = false)
    (own : SpeakForThemselves outcomes) :
    batches changed = (batches outcomes).filter fun v => v.source ≠ s := by
  rw [batches, batches, List.filter_flatMap]
  refine congrArg (Source.all.flatMap ·) (funext fun t => ?_)
  rw [h.batch_eq t]
  by_cases same : t = s
  · rw [if_pos same, events_of_failed failed]
    refine (List.filter_eq_nil_iff.2 fun v hv => ?_).symm
    simp only [own.source_of_mem hv, same, ne_eq, not_true_eq_false, decide_false, Bool.false_eq_true,
      not_false_eq_true]
  · rw [if_neg same]
    refine (List.filter_eq_self.2 fun v hv => ?_).symm
    simp only [own.source_of_mem hv, ne_eq, same, not_false_eq_true, decide_true]

theorem Replaces.mem_missing_iff (h : Replaces outcomes changed s o) (failed : o.isSuccess = false)
    (t : Source) : t ∈ (merge changed).missing ↔ t = s ∨ t ∈ (merge outcomes).missing := by
  rw [mem_missing_merge, mem_missing_merge, h t]
  by_cases same : t = s
  · simp only [same, if_true, Option.some.injEq, exists_eq_left', failed, true_or]
  · simp only [same, if_false, false_or]

theorem Replaces.merge_eq (h : Replaces outcomes changed s o) (failed : o.isSuccess = false)
    (own : SpeakForThemselves outcomes) : merge changed = (merge outcomes).without s := by
  have events : (merge changed).events = (merge outcomes).events.filter fun v => v.source ≠ s := by
    have left := (arranges_merge outcomes).filter fun v => v.source ≠ s
    rw [← h.batches_eq failed own] at left
    exact (left.eq_iff _).1 (arranges_merge changed)
  have missing : (merge changed).missing = SourceSet.ofList (s :: (merge outcomes).missing.members) := by
    refine SourceSet.eq_of_mem_iff fun t => ?_
    rw [h.mem_missing_iff failed, SourceSet.mem_ofList, List.mem_cons]
    rfl
  have degraded : (merge changed).degraded = true :=
    (degraded_merge_iff changed).2 ⟨s, (h.mem_missing_iff failed s).2 (.inl rfl)⟩
  rw [without, ← events, ← missing, ← degraded]

end

/-! ### Taken apart and merged again -/

/-- Events by source, each source's in the order in which they stand. -/
def bySource (sources : List Source) (es : List Event) : List (Source × Outcome) :=
  sources.map fun s => (s, .success (es.filter fun v => v.source = s))

variable {sources : List Source} {es : List Event}

theorem last?_bySource (s : Source) : last? (bySource sources es) s =
    if s ∈ sources then some (.success (es.filter fun v => v.source = s)) else none := by
  rw [last?, bySource, ← List.map_reverse]
  have reversed : s ∈ sources ↔ s ∈ sources.reverse := List.mem_reverse.symm
  simp only [reversed]
  induction sources.reverse with
  | nil => rfl
  | cons t ts ih =>
    rw [List.map_cons, List.lookup_cons]
    by_cases same : s = t
    · subst same
      simp only [beq_self_eq_true, List.mem_cons_self, if_true]
    · simp only [beq_eq_false_iff_ne.2 same, ih, List.mem_cons, same, false_or]

theorem batch_bySource (all : ∀ v ∈ es, v.source ∈ sources) (s : Source) :
    batch (bySource sources es) s = es.filter fun v => v.source = s := by
  rw [batch, last?_bySource]
  by_cases hs : s ∈ sources
  · rw [if_pos hs]
  · rw [if_neg hs]
    refine (List.filter_eq_nil_iff.2 fun v hv => ?_).symm
    have other : v.source ≠ s := fun same => hs (same ▸ all v hv)
    simpa only [decide_eq_true_eq] using other

/-- Events in order are the arrangement of their own batches. -/
theorem arranges_bySource (sorted : es.Pairwise Before) (all : ∀ v ∈ es, v.source ∈ sources) :
    Arranges (batches (bySource sources es)) es := by
  have stable : ∀ moment source, es.filter (isOf moment source) =
      (batches (bySource sources es)).filter (isOf moment source) := by
    intro moment source
    have none : ∀ t, t ≠ source →
        (batch (bySource sources es) t).filter (isOf moment source) = [] := by
      intro t other
      rw [batch_bySource all]
      refine List.filter_eq_nil_iff.2 fun v hv alike => other ?_
      have hs : v.source = t := by simpa only [decide_eq_true_eq] using (List.mem_filter.1 hv).2
      exact hs.symm.trans (isOf_iff.1 alike).2
    rw [filter_batches none, batch_bySource all, List.filter_filter]
    refine List.filter_congr fun v _ => ?_
    simp only [isOf, Bool.and_assoc, Bool.and_self]
  exact ⟨perm_of_filter_eq stable, sorted, stable⟩

theorem events_merge_bySource (outcomes : List (Source × Outcome))
    (all : ∀ v ∈ (merge outcomes).events, v.source ∈ sources) :
    (merge (bySource sources (merge outcomes).events)).events = (merge outcomes).events :=
  ((arranges_bySource (arranges_merge outcomes).sorted all).eq_iff _).1 (arranges_merge _)

/-! ### Both together -/

/-- A failure is seen by the absence of the source alone, whatever failure it is; the sources that the
events name are enough to merge them again. -/
theorem merge_separates {outcomes : List (Source × Outcome)} (own : SpeakForThemselves outcomes) :
    (∀ s f changed, f.isSuccess = false → Replaces outcomes changed s f →
      merge changed = (merge outcomes).without s) ∧
    (∀ sources, (∀ v ∈ (merge outcomes).events, v.source ∈ sources) →
      (merge (bySource sources (merge outcomes).events)).events = (merge outcomes).events) := by
  refine ⟨?_, ?_⟩
  · intro s f changed failed replaced
    exact replaced.merge_eq failed own
  · intro sources all
    exact events_merge_bySource outcomes all

/-- Two sources with events of the same moments, and one that failed already. -/
def interleaved : List (Source × Outcome) :=
  [(.payment, .success [⟨.payment, Samples.epoch, "authorized", Payload.empty⟩,
      ⟨.payment, Instant.latest, "captured", Payload.empty⟩]),
    (.fulfillment, .timeout),
    (.order, .success [⟨.order, Instant.latest, "closed", Payload.empty⟩,
      ⟨.order, Samples.epoch, "placed", Payload.empty⟩,
      ⟨.order, Samples.epoch, "confirmed", Payload.empty⟩])]

theorem merge_separates_interleaved : SpeakForThemselves interleaved ∧
    merge (interleaved ++ [(.order, .undecodable)]) = (merge interleaved).without .order ∧
    merge (interleaved ++ [(.order, .failed (some 503))]) = (merge interleaved).without .order ∧
    (merge (bySource Source.all (merge interleaved).events)).events =
      (merge interleaved).events := by
  have own : SpeakForThemselves interleaved := by
    intro s es given v hv
    cases s <;> cases given <;> revert v <;> decide
  have separates := merge_separates own
  have failing : ∀ f, f.isSuccess = false →
      merge (interleaved ++ [(.order, f)]) = (merge interleaved).without .order := fun f failed =>
    separates.1 .order f _ failed (replaces_append interleaved .order f)
  exact ⟨own, failing _ rfl, failing _ rfl,
    separates.2 Source.all fun v _ => Source.mem_all v.source⟩

end Timeline
end Casebook
