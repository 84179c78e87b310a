import Mathlib.Algebra.BigOperators.Group.List.Basic
import Mathlib.Algebra.GroupWithZero.Nat
import Casebook.Collection.Gathering

/-!
# Counting gatherings

Counting a gathering counts each of its sources once, under one of five labels, and leaves every other
source alone. The failures of each stage go with the labels: a timeout or an upstream error counts for
the requests, an unreadable answer for the decoding, and a breakdown or a lost task for the joining.
-/

namespace Casebook.Metrics

open Collection (Gathering)

/-! ### Single counts -/

section
variable {κ : Type} [DecidableEq κ]

theorem Tally.count_add_indicator (t : Tally κ) (k k' : κ) :
    (t.add k).count k' = t.count k' + if k' = k then 1 else 0 := by
  rw [Tally.count_add]
  split
  next h => rw [h]
  next => rw [Nat.add_zero]

theorem Samples.count_observe_indicator (t : Samples κ) (k k' : κ) (x : Decimal.Binary64) :
    (t.observe k x).count k' = t.count k' + if k' = k then 1 else 0 := by
  rw [Samples.count_observe]
  split
  next h => rw [h]
  next => rw [Nat.add_zero]

end

theorem count_countFailure (m : Metrics) (stage stage' : Stage) :
    Tally.count (m.countFailure stage).failures stage' =
      Tally.count m.failures stage' + if stage' = stage then 1 else 0 :=
  Tally.count_add_indicator m.failures stage stage'

theorem count_countCache (m : Metrics) (e e' : CacheEvent) :
    Tally.count (m.countCache e).cacheEvents e' =
      Tally.count m.cacheEvents e' + if e' = e then 1 else 0 :=
  Tally.count_add_indicator m.cacheEvents e e'

theorem count_observeCollection (m : Metrics) (o o' : Origin) (x : Decimal.Binary64) :
    Samples.count (m.observeCollection o x).collections o' =
      Samples.count m.collections o' + if o' = o then 1 else 0 :=
  Samples.count_observe_indicator m.collections o o' x

/-! ### Labels of sources -/

def sourceLabels : List String :=
  ["success", "timeout", "upstream_error", "decode_error", panicLabel]

def sourceTotal (m : Metrics) (s : Source) : Nat :=
  (sourceLabels.map fun l => Tally.count m.outcomes ⟨s, l⟩).sum

def labelTotal (m : Metrics) (l : String) : Nat :=
  (Source.all.map fun s => Tally.count m.outcomes ⟨s, l⟩).sum

theorem label_mem_sourceLabels (o : Outcome) : o.label ∈ sourceLabels := by
  cases o <;> simp [Outcome.label, sourceLabels]

theorem count_countSource (m : Metrics) (s s' : Source) (l l' : String) :
    Tally.count (m.countSource s l).outcomes ⟨s', l'⟩ =
      Tally.count m.outcomes ⟨s', l'⟩ + if s' = s ∧ l' = l then 1 else 0 := by
  rw [countSource, Tally.count_add_indicator]
  simp only [SourceLabel.mk.injEq]

theorem sum_indicator {α : Type} [DecidableEq α] {l : List α} (hn : l.Nodup) (f : α → Nat) (p : Prop)
    [Decidable p] (a : α) :
    (l.map fun b => f b + if p ∧ b = a then 1 else 0).sum =
      (l.map f).sum + if p ∧ a ∈ l then 1 else 0 := by
  induction l with
  | nil => simp
  | cons b l ih =>
    obtain ⟨hb, hl⟩ := List.nodup_cons.1 hn
    rw [List.map_cons, List.sum_cons, ih hl, List.map_cons, List.sum_cons]
    by_cases hp : p
    · by_cases hba : b = a
      · subst hba
        simp only [hp, hb, List.mem_cons, true_and, true_or, if_true, if_false]
        omega
      · have hab : a ≠ b := Ne.symm hba
        simp only [hp, hba, hab, List.mem_cons, true_and, false_or, if_false]
        omega
    · simp only [hp, false_and, if_false]
      omega

theorem sourceTotal_countSource (m : Metrics) {s s' : Source} {l : String} (hl : l ∈ sourceLabels) :
    (m.countSource s l).sourceTotal s' = m.sourceTotal s' + if s' = s then 1 else 0 := by
  have labels : sourceLabels.Nodup := by decide
  simp only [sourceTotal, count_countSource]
  rw [sum_indicator labels]
  simp only [hl, and_true]

theorem labelTotal_countSource (m : Metrics) (s : Source) (l l' : String) :
    (m.countSource s l).labelTotal l' = m.labelTotal l' + if l' = l then 1 else 0 := by
  have sources : Source.all.Nodup := by decide
  simp only [labelTotal, count_countSource, and_comm (b := l' = l)]
  rw [sum_indicator sources]
  simp only [Source.mem_all, and_true]

/-! ### One source -/

theorem outcomes_countOutcome (m : Metrics) (s : Source) (o : Outcome) :
    (m.countOutcome s o).outcomes = (m.countSource s o.label).outcomes := by
  cases o <;> rfl

def labelOf (g : Gathering) (s : Source) : String :=
  if s ∈ g.broken then panicLabel else (g.outcome s).label

theorem labelOf_mem (g : Gathering) (s : Source) : labelOf g s ∈ sourceLabels := by
  rw [labelOf]
  split
  · decide
  · exact label_mem_sourceLabels _

theorem outcomes_countGathered (g : Gathering) (m : Metrics) (s : Source) :
    (countGathered g m s).outcomes = (m.countSource s (labelOf g s)).outcomes := by
  rw [countGathered, labelOf]
  split
  · rfl
  · exact outcomes_countOutcome _ _ _

theorem sourceTotal_countGathered (g : Gathering) (m : Metrics) (s s' : Source) :
    (countGathered g m s).sourceTotal s' = m.sourceTotal s' + if s' = s then 1 else 0 := by
  rw [← sourceTotal_countSource m (labelOf_mem g s), sourceTotal, outcomes_countGathered]
  rfl

/-- The failures of each stage are those that the labels show, and the lost tasks. -/
structure Balanced (lost : Nat) (m : Metrics) : Prop where
  http : Tally.count m.failures .http = m.labelTotal "timeout" + m.labelTotal "upstream_error"
  decode : Tally.count m.failures .decode = m.labelTotal "decode_error"
  aggregate : Tally.count m.failures .aggregate = m.labelTotal panicLabel + lost

namespace Balanced

variable {lost : Nat} {m : Metrics}

theorem countPanic (h : Balanced lost m) (s : Source) : Balanced lost (m.countPanic s) := by
  have labels : ∀ l, (m.countPanic s).labelTotal l =
      m.labelTotal l + if l = panicLabel then 1 else 0 :=
    fun l => labelTotal_countSource m s panicLabel l
  have stages : ∀ stage, Tally.count (m.countPanic s).failures stage =
      Tally.count m.failures stage + if stage = .aggregate then 1 else 0 :=
    fun stage => count_countFailure _ .aggregate stage
  obtain ⟨http, decode, aggregate⟩ := h
  constructor <;> simp +decide only [labels, stages, if_true, if_false] <;> omega

theorem countOutcome (h : Balanced lost m) (s : Source) (o : Outcome) :
    Balanced lost (m.countOutcome s o) := by
  have labels : ∀ l, (m.countOutcome s o).labelTotal l =
      m.labelTotal l + if l = o.label then 1 else 0 := by
    intro l
    rw [labelTotal, outcomes_countOutcome]
    exact labelTotal_countSource m s o.label l
  have stages : ∀ stage, Tally.count (m.countOutcome s o).failures stage =
      Tally.count m.failures stage + if o.stage? = some stage then 1 else 0 := by
    intro stage
    cases o with
    | success es => rfl
    | timeout => cases stage <;> exact count_countFailure (m.countSource s "timeout") .http _
    | failed n => cases stage <;> exact count_countFailure (m.countSource s "upstream_error") .http _
    | undecodable =>
      cases stage <;> exact count_countFailure (m.countSource s "decode_error") .decode _
  obtain ⟨http, decode, aggregate⟩ := h
  cases o <;> constructor <;>
    simp +decide only [labels, stages, Outcome.label, Outcome.stage?, if_true, if_false] <;> omega

theorem countLost (h : Balanced lost m) : Balanced (lost + 1) (m.countFailure .aggregate) := by
  have labels : ∀ l, (m.countFailure .aggregate).labelTotal l = m.labelTotal l := fun _ => rfl
  obtain ⟨http, decode, aggregate⟩ := h
  constructor <;> simp +decide only [labels, count_countFailure, if_true, if_false] <;> omega

theorem countGathered (h : Balanced lost m) (g : Gathering) (s : Source) :
    Balanced lost (Metrics.countGathered g m s) := by
  rw [Metrics.countGathered]
  split
  · exact h.countPanic s
  · exact h.countOutcome s _

end Balanced

/-! ### All sources -/

section
variable (g : Gathering)

theorem foldl_countGathered {P : Metrics → Prop} (one : ∀ m s, P m → P (countGathered g m s))
    (sources : List Source) {m : Metrics} (h : P m) : P (sources.foldl (countGathered g) m) := by
  induction sources generalizing m with
  | nil => exact h
  | cons s sources ih => exact ih (one m s h)

theorem countGathering_induction {P : Metrics → Prop} {m : Metrics} (h : P m)
    (lost : ∀ m, P m → P (m.countFailure .aggregate)) (one : ∀ m s, P m → P (countGathered g m s))
    (sources : List Source) : P (m.countGathering sources g) := by
  have counted : ∀ n, P (Nat.repeat (countFailure · .aggregate) n m) := by
    intro n
    induction n with
    | zero => exact h
    | succ n ih => exact lost _ ih
  exact foldl_countGathered g one sources (counted g.lost)

theorem kept_countGathered (m : Metrics) (s : Source) :
    (countGathered g m s).cacheEvents = m.cacheEvents ∧
      (countGathered g m s).collections = m.collections := by
  rw [countGathered]
  split
  · exact ⟨rfl, rfl⟩
  · cases g.outcome s <;> exact ⟨rfl, rfl⟩

theorem kept_countGathering (m : Metrics) (sources : List Source) :
    (m.countGathering sources g).cacheEvents = m.cacheEvents ∧
      (m.countGathering sources g).collections = m.collections := by
  refine countGathering_induction
    (P := fun m' => m'.cacheEvents = m.cacheEvents ∧ m'.collections = m.collections) g ⟨rfl, rfl⟩
    (fun _ h => h) ?_ sources
  intro m' s h
  have kept := kept_countGathered g m' s
  exact ⟨kept.1.trans h.1, kept.2.trans h.2⟩

theorem outcomes_repeat_countFailure (m : Metrics) (stage : Stage) (n : Nat) :
    (Nat.repeat (countFailure · stage) n m).outcomes = m.outcomes := by
  induction n with
  | zero => rfl
  | succ n ih => exact ih

theorem sourceTotal_countGathering (m : Metrics) {sources : List Source} (hn : sources.Nodup)
    (s : Source) : (m.countGathering sources g).sourceTotal s =
      m.sourceTotal s + if s ∈ sources then 1 else 0 := by
  have run : ∀ (l : List Source) (m : Metrics), l.Nodup →
      (l.foldl (countGathered g) m).sourceTotal s = m.sourceTotal s + if s ∈ l then 1 else 0 := by
    intro l
    induction l with
    | nil =>
      intro m _
      simp
    | cons t l ih =>
      intro m hn
      obtain ⟨ht, hl⟩ := List.nodup_cons.1 hn
      rw [List.foldl_cons, ih _ hl, sourceTotal_countGathered]
      by_cases hs : s = t
      · subst hs
        simp [ht]
      · simp [hs]
  rw [countGathering, run sources _ hn, sourceTotal, outcomes_repeat_countFailure]
  rfl

theorem balanced_countGathering {lost : Nat} {m : Metrics} (h : Balanced lost m)
    (sources : List Source) : Balanced (lost + g.lost) (m.countGathering sources g) := by
  have counted : ∀ n, Balanced (lost + n) (Nat.repeat (countFailure · .aggregate) n m) := by
    intro n
    induction n with
    | zero => exact h
    | succ n ih => exact ih.countLost
  exact foldl_countGathered g (fun _ s hm => hm.countGathered g s) sources (counted g.lost)

end
end Casebook.Metrics
