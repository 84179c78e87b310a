import Casebook.Collection.Gathering

/-!
# Joining tasks in any order

Every source that has a client has one task, and the tasks are joined one by one in whatever order they
end. What joining gave is told by the set of joined tasks alone, so the outcome of each source is that of
its task, or a timeout if its task was still pending.
-/

namespace Casebook.Collection

/-! ### Tasks of the registered clients -/

def Client.script (c : Client) : Source × Behaviour := (c.source, c.behaviour)

def Client.task (b : Budget) (c : Client) : Task :=
  ⟨c.source, (c.behaviour.run b).1, (c.behaviour.run b).2⟩

theorem tasks_eq (b : Budget) (cs : List Client) :
    tasks b cs = (Client.registered cs).map (Client.task b) := rfl

theorem map_source_tasks (b : Budget) (cs : List Client) :
    (tasks b cs).map (·.source) = Client.sources cs := by
  rw [tasks_eq, List.map_map]
  rfl

theorem Client.sources_eq (cs : List Client) :
    Client.sources cs = Source.all.filter fun s => cs.any fun c => c.source = s := by
  have first : ∀ l : List Source,
      (l.filterMap fun s => cs.find? fun c => c.source = s).map (·.source) =
        l.filter fun s => cs.any fun c => c.source = s := by
    intro l
    induction l with
    | nil => rfl
    | cons s l ih =>
      have known : (cs.find? fun c => c.source = s).isSome = cs.any fun c => c.source = s :=
        List.isSome_find?
      cases hf : cs.find? fun c => c.source = s with
      | none =>
        rw [hf] at known
        rw [List.filterMap_cons, hf, List.filter_cons_of_neg (by simp [← known])]
        exact ih
      | some c =>
        rw [hf] at known
        have hc : c.source = s := by simpa using List.find?_some hf
        rw [List.filterMap_cons, hf, List.filter_cons_of_pos (by simp [← known])]
        exact congr (congrArg List.cons hc) ih
  exact first Source.all

theorem Client.nodup_sources (cs : List Client) : (Client.sources cs).Nodup := by
  rw [Client.sources_eq]
  exact List.Pairwise.filter _ (by decide : Source.all.Nodup)

theorem nodup_tasks (b : Budget) (cs : List Client) : ((tasks b cs).map (·.source)).Nodup := by
  rw [map_source_tasks]
  exact Client.nodup_sources cs

theorem tasks_congr (b : Budget) {cs ds : List Client}
    (h : cs.map Client.script = ds.map Client.script) : tasks b cs = tasks b ds := by
  have byScript : ∀ cs : List Client, tasks b cs = Source.all.filterMap fun s =>
      ((cs.map Client.script).find? fun p => p.1 = s).map fun p =>
        ⟨p.1, (p.2.run b).1, (p.2.run b).2⟩ := by
    intro cs
    rw [tasks_eq, Client.registered, List.map_filterMap]
    congr 1
    funext s
    rw [List.find?_map, Option.map_map]
    rfl
  rw [byScript cs, byScript ds, h]

theorem Client.sources_congr {cs ds : List Client}
    (h : cs.map (·.source) = ds.map (·.source)) : Client.sources cs = Client.sources ds := by
  have bySource : ∀ cs : List Client, Client.sources cs =
      Source.all.filter fun s => (cs.map (·.source)).any fun t => t = s := by
    intro cs
    rw [Client.sources_eq]
    simp only [List.any_map, Function.comp_def]
  rw [bySource cs, bySource ds, h]

theorem Client.map_source_of_scripts {cs ds : List Client}
    (h : cs.map Client.script = ds.map Client.script) :
    cs.map (·.source) = ds.map (·.source) := by
  have sources := congrArg (List.map Prod.fst) h
  rw [List.map_map, List.map_map] at sources
  exact sources

theorem Client.map_source_modify (f : Client → Client) (hf : ∀ c, (f c).source = c.source)
    (cs : List Client) (place : Nat) :
    (cs.modify place f).map (·.source) = cs.map (·.source) := by
  induction cs generalizing place with
  | nil => rw [List.modify_nil]
  | cons c cs ih =>
    cases place with
    | zero => rw [List.modify_zero_cons, List.map_cons, List.map_cons, hf]
    | succ place => rw [List.modify_succ_cons, List.map_cons, List.map_cons, ih]

theorem Client.map_script_modify (cs : List Client) (place : Nat) (behaviour : Behaviour) :
    (cs.modify place fun c => { c with behaviour }).map Client.script =
      (cs.map Client.script).modify place fun p => (p.1, behaviour) := by
  induction cs generalizing place with
  | nil => rw [List.modify_nil, List.map_nil, List.modify_nil]
  | cons c cs ih =>
    cases place with
    | zero => rfl
    | succ place =>
      rw [List.modify_succ_cons, List.map_cons, List.map_cons, List.modify_succ_cons, ih]

theorem Client.map_script_askAll (deadline : Span) (cs : List Client) :
    (Client.askAll deadline cs).map Client.script = cs.map Client.script := by
  have first : ∀ (cs : List Client) (done : List Source),
      (Client.askFirst deadline done cs).map Client.script = cs.map Client.script := by
    intro cs
    induction cs with
    | nil => exact fun _ => rfl
    | cons c cs ih =>
      intro done
      rw [Client.askFirst]
      split
      next => rw [List.map_cons, List.map_cons, ih]
      next =>
        rw [List.map_cons, List.map_cons, ih]
        rfl
  exact first cs []

/-- Whether no client before a place has the source of the one at it. -/
def Client.isFirst (cs : List Client) (place : Nat) (c : Client) : Bool :=
  c.source ∉ (cs.take place).map (·.source)

theorem Client.getElem?_askAll (deadline : Span) (cs : List Client) (place : Nat) :
    (Client.askAll deadline cs)[place]? =
      cs[place]?.map fun c => if Client.isFirst cs place c then c.ask deadline else c := by
  have first : ∀ (cs : List Client) (done : List Source) (place : Nat),
      (Client.askFirst deadline done cs)[place]? = cs[place]?.map fun c =>
        if c.source ∉ done ++ (cs.take place).map (·.source) then c.ask deadline else c := by
    intro cs
    induction cs with
    | nil => intro done place; rfl
    | cons c cs ih =>
      intro done place
      rw [Client.askFirst]
      by_cases hc : c.source ∈ done
      · rw [if_pos hc]
        cases place with
        | zero => simp [hc]
        | succ place =>
          rw [List.getElem?_cons_succ, List.getElem?_cons_succ, ih]
          congr 1
          funext d
          have same : d.source ∈ done ++ ((c :: cs).take (place + 1)).map (·.source) ↔
              d.source ∈ done ++ (cs.take place).map (·.source) := by
            simp only [List.take_succ_cons, List.map_cons]
            grind
          simp only [same]
      · rw [if_neg hc]
        cases place with
        | zero => simp [hc]
        | succ place =>
          rw [List.getElem?_cons_succ, List.getElem?_cons_succ, ih]
          congr 1
          funext d
          have same : d.source ∈ (c.source :: done) ++ (cs.take place).map (·.source) ↔
              d.source ∈ done ++ ((c :: cs).take (place + 1)).map (·.source) := by
            simp only [List.take_succ_cons, List.map_cons]
            grind
          simp only [same]
  rw [Client.askAll, first cs [] place]
  simp only [List.nil_append, Client.isFirst, decide_eq_true_eq]

/-! ### Orders of joining -/

/-- The tasks that are joined, in their order. A pending task that ends in time may come next,
whichever it is; joining stops when no task is pending that ends before the time is up. A task that ends
at the very end may be joined or not. -/
inductive Joins (b : Budget) : List Task → List Task → Prop where
  | stop {pending : List Task} (late : ∀ t ∈ pending, b.total ≤ t.moment) : Joins b pending []
  | next {before after joined : List Task} {t : Task} (inTime : t.moment ≤ b.total)
      (rest : Joins b (before ++ after) joined) : Joins b (before ++ t :: after) (t :: joined)

namespace Joins

variable {b : Budget} {pending joined : List Task} {t : Task}

theorem subset (h : Joins b pending joined) : joined ⊆ pending := by
  induction h with
  | stop late => exact List.nil_subset _
  | next inTime rest ih =>
    intro u hu
    rcases List.mem_cons.1 hu with rfl | hu
    · simp
    · have := ih hu
      grind

theorem mem_of_early (h : Joins b pending joined) (ht : t ∈ pending) (early : t.moment < b.total) :
    t ∈ joined := by
  induction h with
  | stop late => exact absurd early (Nat.not_lt.2 (late t ht))
  | @next before after joined u inTime rest ih =>
    by_cases hu : t = u
    · exact hu ▸ List.mem_cons_self
    · refine List.mem_cons_of_mem _ (ih ?_)
      grind

theorem moment_le (h : Joins b pending joined) (ht : t ∈ joined) : t.moment ≤ b.total := by
  induction h with
  | stop late => cases ht
  | next inTime rest ih =>
    rcases List.mem_cons.1 ht with rfl | ht
    · exact inTime
    · exact ih ht

theorem nodup (h : Joins b pending joined) (hn : (pending.map (·.source)).Nodup) :
    (joined.map (·.source)).Nodup := by
  induction h with
  | stop late => exact List.nodup_nil
  | @next before after joined u inTime rest ih =>
    have first := (List.perm_middle.map Task.source).nodup_iff.1 hn
    rw [List.map_cons, List.nodup_cons] at first
    refine List.nodup_cons.2 ⟨?_, ih first.2⟩
    intro hu
    obtain ⟨v, hv, hs⟩ := List.mem_map.1 hu
    exact first.1 (List.mem_map.2 ⟨v, rest.subset hv, hs⟩)

theorem cons_late (h : Joins b pending joined) (late : b.total ≤ t.moment) :
    Joins b (t :: pending) joined := by
  induction h with
  | stop hp =>
    refine .stop fun u hu => ?_
    rcases List.mem_cons.1 hu with rfl | hu
    · exact late
    · exact hp u hu
  | @next before after joined u inTime rest ih =>
    show Joins b ((t :: before) ++ u :: after) (u :: joined)
    exact .next inTime ih

theorem of_inTime (b : Budget) (ts : List Task) : Joins b ts (inTime b ts) := by
  induction ts with
  | nil => exact .stop fun t ht => by cases ht
  | cons t ts ih =>
    by_cases early : t.moment < b.total
    · have front : inTime b (t :: ts) = t :: inTime b ts :=
        List.filter_cons_of_pos (by simpa using early)
      rw [front]
      show Joins b ([] ++ t :: ts) (t :: inTime b ts)
      exact .next (Nat.le_of_lt early) ih
    · have skipped : inTime b (t :: ts) = inTime b ts :=
        List.filter_cons_of_neg (by simpa using early)
      rw [skipped]
      exact ih.cons_late (Nat.not_lt.1 early)

end Joins

/-! ### What joining tells -/

def Ending.outcome? : Ending → Option Outcome
  | .gave o => some o
  | .broke => some (.failed none)
  | .lost => none

def Ending.outcome (e : Ending) : Outcome := e.outcome?.getD .timeout

/-- A gathering tells of each joined task how it ended, and of no other task. -/
structure Gathering.Tells (joined : List Task) (g : Gathering) : Prop where
  outcome : ∀ t ∈ joined, g.outcomes.lookup t.source = t.ending.outcome?
  other : ∀ s, s ∉ joined.map (·.source) → g.outcomes.lookup s = none
  broken : ∀ s, s ∈ g.broken ↔ ∃ t ∈ joined, t.source = s ∧ t.ending = .broke
  lost : g.lost = joined.countP (·.ending = .lost)

namespace Gathering

theorem tells_empty : Tells [] empty where
  outcome := fun t ht => by cases ht
  other := fun s _ => rfl
  broken := fun s => by simp [empty]
  lost := rfl

theorem lookup_join (g : Gathering) (t : Task) (s : Source) :
    (g.join t).outcomes.lookup s =
      if s = t.source then t.ending.outcome? <|> g.outcomes.lookup s
      else g.outcomes.lookup s := by
  obtain ⟨source, moment, ending⟩ := t
  by_cases hs : s = source
  · subst hs
    cases ending <;> simp [join, Ending.outcome?]
  · cases ending <;> simp [join, List.lookup_cons, hs, beq_false_of_ne]

theorem Tells.join {joined : List Task} {g : Gathering} {t : Task} (h : Tells joined g)
    (ht : t.source ∉ joined.map (·.source)) : Tells (joined ++ [t]) (g.join t) where
  outcome := by
    intro u hu
    rw [lookup_join]
    rcases List.mem_append.1 hu with hu | hu
    · have hne : u.source ≠ t.source := fun hs => ht (hs ▸ List.mem_map_of_mem hu)
      rw [if_neg hne, h.outcome u hu]
    · rw [List.mem_singleton.1 hu, if_pos rfl, h.other t.source ht, Option.orElse_eq_orElse]
      cases t.ending <;> rfl
  other := by
    intro s hs
    rw [List.map_append, List.mem_append, not_or] at hs
    have hne : s ≠ t.source := fun he => hs.2 (by simp [he])
    rw [lookup_join, if_neg hne, h.other s hs.1]
  broken := by
    intro s
    have before := h.broken s
    obtain ⟨source, moment, ending⟩ := t
    cases ending with
    | gave o => simp [Gathering.join, before, or_and_right, exists_or]
    | broke => simp [Gathering.join, before, or_and_right, exists_or, or_comm, eq_comm]
    | lost => simp [Gathering.join, before, or_and_right, exists_or]
  lost := by
    have before := h.lost
    obtain ⟨source, moment, ending⟩ := t
    cases ending <;> simp [Gathering.join, before, List.countP_append]

theorem tells_ofTasks {joined : List Task} (h : (joined.map (·.source)).Nodup) :
    Tells joined (ofTasks joined) := by
  have run : ∀ (ts done : List Task) (g : Gathering), Tells done g →
      ((done ++ ts).map (·.source)).Nodup → Tells (done ++ ts) (ts.foldl join g) := by
    intro ts
    induction ts with
    | nil =>
      intro done g hg _
      rw [List.append_nil]
      exact hg
    | cons t ts ih =>
      intro done g hg hn
      have new : t.source ∉ done.map (·.source) := by
        intro ht
        rw [List.map_append, List.nodup_append] at hn
        exact hn.2.2 _ ht _ (List.mem_map_of_mem List.mem_cons_self) rfl
      rw [List.append_cons] at hn ⊢
      exact ih (done ++ [t]) (g.join t) (hg.join new) hn
  exact run joined [] empty tells_empty h

end Gathering

section
variable {b : Budget} {pending joined : List Task}

theorem eq_of_nodup {ts : List Task} (hn : (ts.map (·.source)).Nodup) {t u : Task} (ht : t ∈ ts)
    (hu : u ∈ ts) (hs : u.source = t.source) : u = t := by
  induction ts with
  | nil => cases ht
  | cons v ts ih =>
    rw [List.map_cons, List.nodup_cons] at hn
    rcases List.mem_cons.1 ht with rfl | htail <;> rcases List.mem_cons.1 hu with rfl | hutail
    · rfl
    · exact absurd (List.mem_map.2 ⟨u, hutail, hs⟩) hn.1
    · exact absurd (List.mem_map.2 ⟨t, htail, hs.symm⟩) hn.1
    · exact ih hn.2 htail hutail

theorem outcome_of_joins (h : Joins b pending joined) (hn : (pending.map (·.source)).Nodup)
    {t : Task} (ht : t ∈ pending) :
    (Gathering.ofTasks joined).outcome t.source =
      if t ∈ joined then t.ending.outcome else .timeout := by
  have tells := Gathering.tells_ofTasks (h.nodup hn)
  split
  next hj => rw [Gathering.outcome, tells.outcome t hj, Ending.outcome]
  next hj =>
    have absent : t.source ∉ joined.map (·.source) := by
      intro hs
      obtain ⟨u, hu, he⟩ := List.mem_map.1 hs
      have same : u = t := eq_of_nodup hn ht (h.subset hu) he
      exact hj (same ▸ hu)
    rw [Gathering.outcome, tells.other _ absent]
    rfl

theorem outcome_inTime {ts : List Task} (hn : (ts.map (·.source)).Nodup) {t : Task} (ht : t ∈ ts) :
    (Gathering.ofTasks (inTime b ts)).outcome t.source =
      if t.moment < b.total then t.ending.outcome else .timeout := by
  have joined : t ∈ inTime b ts ↔ t.moment < b.total := by
    rw [inTime, List.mem_filter]
    simp [ht]
  rw [outcome_of_joins (.of_inTime b ts) hn ht]
  simp only [joined]

/-! ### Independence of the order -/

/-- Two gatherings tell the same: the order in which clients broke down is not told. -/
structure Gathering.Agree (g g' : Gathering) : Prop where
  outcome : ∀ s, g.outcome s = g'.outcome s
  broken : ∀ s, s ∈ g.broken ↔ s ∈ g'.broken
  lost : g.lost = g'.lost

/-- No task comes to more than a timeout at the very end of the time. -/
def Settled (b : Budget) (ts : List Task) : Prop :=
  ∀ t ∈ ts, t.moment = b.total → t.ending = .gave .timeout

theorem Joins.countP_eq {p : Task → Bool} (h : Joins b pending joined)
    (hp : ∀ t ∈ pending, t.moment = b.total → p t = false) :
    joined.countP p = (inTime b pending).countP p := by
  induction h with
  | stop late =>
    have none : inTime b _ = [] := List.filter_eq_nil_iff.2 fun t ht => by
      simpa using late t ht
    rw [none]
  | @next before after joined t early rest ih =>
    have others := ih fun u hu => hp u (by grind)
    have split : inTime b (before ++ t :: after) =
        inTime b before ++ (inTime b [t] ++ inTime b after) := by
      rw [inTime, List.filter_append, ← List.singleton_append, List.filter_append]
      rfl
    have together : inTime b (before ++ after) = inTime b before ++ inTime b after :=
      List.filter_append ..
    have one : (inTime b [t]).countP p = [t].countP p := by
      by_cases ht : t.moment < b.total
      · rw [inTime, List.filter_cons_of_pos (by simpa using ht)]
        rfl
      · have last := hp t (by simp) (by omega)
        rw [inTime, List.filter_cons_of_neg (by simpa using ht)]
        simp [last]
    rw [together, List.countP_append] at others
    rw [split, List.countP_append, List.countP_append, one, ← List.singleton_append,
      List.countP_append, others]
    omega

/-- In whatever order the tasks are joined, the same is told. -/
theorem agree_of_joins (h : Joins b pending joined) (hn : (pending.map (·.source)).Nodup)
    (settled : Settled b pending) :
    (Gathering.ofTasks joined).Agree (Gathering.ofTasks (inTime b pending)) where
  outcome := by
    intro s
    by_cases hs : s ∈ pending.map (·.source)
    · obtain ⟨t, ht, rfl⟩ := List.mem_map.1 hs
      rw [outcome_of_joins h hn ht, outcome_inTime hn ht]
      by_cases early : t.moment < b.total
      · rw [if_pos (h.mem_of_early ht early), if_pos early]
      · rw [if_neg early]
        split
        next hj =>
          have last := settled t ht (Nat.le_antisymm (h.moment_le hj) (Nat.not_lt.1 early))
          rw [last]
          rfl
        next => rfl
    · have absent : ∀ {js : List Task}, Joins b pending js →
          (Gathering.ofTasks js).outcome s = .timeout := by
        intro js hj
        have out : s ∉ js.map (·.source) := fun hm => by
          obtain ⟨t, ht, rfl⟩ := List.mem_map.1 hm
          exact hs (List.mem_map_of_mem (hj.subset ht))
        rw [Gathering.outcome, (Gathering.tells_ofTasks (hj.nodup hn)).other s out]
        rfl
      rw [absent h, absent (.of_inTime b pending)]
  broken := by
    intro s
    rw [(Gathering.tells_ofTasks (h.nodup hn)).broken,
      (Gathering.tells_ofTasks ((Joins.of_inTime b pending).nodup hn)).broken]
    constructor
    · rintro ⟨t, ht, hs, he⟩
      have before : t.moment < b.total := by
        refine Nat.lt_of_le_of_ne (h.moment_le ht) fun last => ?_
        have timeout := settled t (h.subset ht) last
        rw [he] at timeout
        cases timeout
      exact ⟨t, (Joins.of_inTime b pending).mem_of_early (h.subset ht) before, hs, he⟩
    · rintro ⟨t, ht, hs, he⟩
      obtain ⟨hp, early⟩ := List.mem_filter.1 ht
      exact ⟨t, h.mem_of_early hp (by simpa using early), hs, he⟩
  lost := by
    rw [(Gathering.tells_ofTasks (h.nodup hn)).lost,
      (Gathering.tells_ofTasks ((Joins.of_inTime b pending).nodup hn)).lost]
    refine h.countP_eq fun t ht last => ?_
    rw [settled t ht last]
    rfl

end

theorem Gathering.Agree.outcomesOf_eq {g g' : Gathering} (h : g.Agree g')
    (sources : List Source) : g.outcomesOf sources = g'.outcomesOf sources := by
  unfold Gathering.outcomesOf
  exact List.map_congr_left fun s _ => congrArg (Prod.mk s) (h.outcome s)

theorem Gathering.Agree.countGathering_eq {g g' : Gathering} (h : g.Agree g') (m : Metrics)
    (sources : List Source) : m.countGathering sources g = m.countGathering sources g' := by
  have one : Metrics.countGathered g = Metrics.countGathered g' := by
    funext m s
    simp only [Metrics.countGathered, h.broken s, h.outcome s]
  rw [Metrics.countGathering, Metrics.countGathering, one, h.lost]

/-! ### Outcomes of behaviours -/

def Behaviour.outcome (b : Budget) : Behaviour → Outcome
  | .answers o => if 0 < b.total then o else .timeout
  | .answersAfter wait o =>
    if wait.ceilMillis ≤ b.source ∧ wait.ceilMillis < b.total then o else .timeout
  | .hangs => .timeout
  | .breaks => if 0 < b.total then .failed none else .timeout
  | .vanishes => .timeout

def Client.outcomes (b : Budget) (cs : List Client) : List (Source × Outcome) :=
  (Client.registered cs).map fun c => (c.source, c.behaviour.outcome b)

theorem Behaviour.outcome_eq (b : Budget) (x : Behaviour) :
    (if (x.run b).1 < b.total then (x.run b).2.outcome else .timeout) = x.outcome b := by
  cases x with
  | answers o => rfl
  | answersAfter wait o =>
    rw [run, outcome]
    by_cases hw : wait.ceilMillis ≤ b.source
    · rw [if_pos hw]
      by_cases ht : wait.ceilMillis < b.total
      · rw [if_pos ht, if_pos ⟨hw, ht⟩]
        rfl
      · rw [if_neg ht, if_neg fun h => ht h.2]
    · have late : ¬(wait.ceilMillis ≤ b.source ∧ wait.ceilMillis < b.total) := fun h => hw h.1
      rw [if_neg hw, if_neg late]
      exact ite_self _
  | hangs => exact ite_self _
  | breaks => rfl
  | vanishes => exact ite_self _

theorem outcomesOf_inTime (b : Budget) (cs : List Client) :
    (Gathering.ofTasks (inTime b (tasks b cs))).outcomesOf (Client.sources cs) =
      Client.outcomes b cs := by
  rw [Gathering.outcomesOf, Client.sources, List.map_map, Client.outcomes]
  refine List.map_congr_left fun c hc => congrArg (Prod.mk _) ?_
  have ht : c.task b ∈ tasks b cs := List.mem_map_of_mem hc
  exact (outcome_inTime (nodup_tasks b cs) ht).trans (Behaviour.outcome_eq b c.behaviour)

end Casebook.Collection
