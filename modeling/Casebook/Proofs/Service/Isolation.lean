import Casebook.Proofs.Cache.Alike
import Casebook.Proofs.Cache.Frames
import Casebook.Proofs.Service.Run

/-!
# Isolation of cases

What is done for one case does not show in what is done for another. A run and the same run without the
steps for other cases go side by side: they find the same in the slot of the case, and they differ at
most in how long they have waited. That can matter in one way only: the longer run may ask for deadlines
that the clock of the machine does not show any more.
-/

namespace Casebook

open Cache (Slot Store keyOf)
open Collection (Client)

/-- Whether a step is for a case or changes the world around all of them. -/
def Step.concerns (c : CaseId) : Step → Bool
  | .get _ d => d = c
  | .refresh d => d = c
  | .invalidate d => d = c
  | .change _ => true

namespace Service

/-- The answers of a run to the steps that concern a case. -/
def answersTo (c : CaseId) : Service → List Step → List Answer
  | _, [] => []
  | s, x :: xs =>
    if x.concerns c then (s.step x).1 :: answersTo c (s.step x).2 xs
    else answersTo c (s.step x).2 xs

/-! ### One step for another case -/

section
variable {s : Service} {c d : CaseId}

theorem keyOf_ne_of_unconcerned (other : decide (d = c) = false) : keyOf c ≠ keyOf d := by
  intro hk
  exact of_decide_eq_false other (Cache.keyOf_injective hk).symm

theorem slot?_renewed_of_ne {key : String} (ne : key ≠ keyOf d) :
    (s.renewed d).store.slot? key = s.store.slot? key := by
  rw [renewed_store]
  exact Store.slot?_set_of_ne key ne

theorem slot?_renew_of_ne {key : String} (ne : key ≠ keyOf d) :
    (answered (s.renew d) s).2.store.slot? key = s.store.slot? key := by
  rw [answered_renew]
  split
  next => exact slot?_renewed_of_ne ne
  next => rfl

theorem slot?_look_of_ne {key : String} (ne : key ≠ keyOf d) :
    (s.look d).2.store.slot? key = s.store.slot? key := by
  rw [look_store]
  exact (s.store.emptied_load s.storeClock key d).of_ne ne

theorem slot?_invalidate_of_ne {key : String} (ne : key ≠ keyOf d) :
    (s.invalidate d).2.store.slot? key = s.store.slot? key :=
  (s.store.emptied_delete (keyOf d) key).of_ne ne

/-- Work for one case leaves the slots of all others as they are, in every kind of store. -/
theorem slot?_step_of_unconcerned {x : Step} (other : x.concerns c = false) :
    (s.step x).2.store.slot? (keyOf c) = s.store.slot? (keyOf c) := by
  cases x with
  | get forced d =>
    have ne := keyOf_ne_of_unconcerned other
    cases forced with
    | true => exact slot?_renew_of_ne ne
    | false =>
      rcases s.lookAct_cases d with ⟨e, he⟩ | ⟨found, hf⟩
      · rw [step_of_served s d he]
        exact slot?_look_of_ne ne
      · rw [step_of_missed s d hf]
        exact (slot?_renew_of_ne ne).trans (slot?_look_of_ne ne)
  | refresh d =>
    have ne := keyOf_ne_of_unconcerned other
    rw [step_refresh]
    exact (slot?_renew_of_ne ne).trans (slot?_invalidate_of_ne ne)
  | invalidate d => exact slot?_invalidate_of_ne (keyOf_ne_of_unconcerned other)
  | change y => cases other

/-- Waiting goes forward while the clock of the machine shows the deadlines. -/
theorem le_elapsed_renewed (shown : s.showsDeadlines = true) (c : CaseId) :
    s.elapsed ≤ (s.renewed c).elapsed := by
  have limits : Cache.Clock.limit ≤ Span.longest.nanos := by decide
  simp only [showsDeadlines, reaches, Bool.and_eq_true, decide_eq_true_eq] at shown
  rw [renewed_elapsed]
  exact Span.le_plus (by omega) _

theorem caseId_of_served {e : Entry} (served : s.lookAct c = .served e) : e.caseId = c := by
  obtain ⟨loaded, -, -⟩ := s.look_of_served c served
  obtain ⟨b, -, -, same⟩ := Store.load_eq_entry_iff.1 loaded
  exact same

end

/-! ### Two runs side by side -/

/-- Two services that cannot be told apart by work for a case, but that the first has waited longer. -/
structure Parallel (c : CaseId) (s s' : Service) : Prop where
  settings : s'.settings = s.settings
  scripts : s'.clients.map Client.script = s.clients.map Client.script
  today : s'.today = s.today
  storeClock : s'.storeClock = s.storeClock
  store : s.store.Alike (keyOf c) s'.store
  ahead : s'.elapsed ≤ s.elapsed

namespace Parallel

variable {c d : CaseId} {s s' : Service}

theorem showsDeadlines (h : Parallel c s s') (shown : s.showsDeadlines = true) :
    s'.showsDeadlines = true := by
  have ahead : s'.elapsed.nanos ≤ s.elapsed.nanos := h.ahead
  simp only [Service.showsDeadlines, reaches, Bool.and_eq_true, decide_eq_true_eq] at shown ⊢
  rw [h.settings, h.storeClock]
  omega

theorem merged (h : Parallel c s s') : s'.merged = s.merged := merged_congr h.settings h.scripts

theorem entryOf (h : Parallel c s s') (d : CaseId) (t : Timeline) :
    s'.entryOf d t = s.entryOf d t := by
  rw [Service.entryOf, Service.entryOf, h.settings, h.today]

theorem budget (h : Parallel c s s') : s'.budget = s.budget := by
  rw [Service.budget, Service.budget, h.settings]

theorem tasks (h : Parallel c s s') : s'.tasks = s.tasks := by
  rw [Service.tasks, Service.tasks, h.budget, Collection.tasks_congr _ h.scripts]

/-! ### Work for the case -/

theorem renewed (h : Parallel c s s') : Parallel c (s.renewed c) (s'.renewed c) where
  settings := by rw [renewed_settings, renewed_settings, h.settings]
  scripts := by rw [renewed_scripts, renewed_scripts, h.scripts]
  today := by rw [renewed_today, renewed_today, h.today]
  storeClock := by rw [renewed_storeClock, renewed_storeClock, h.storeClock]
  store := by
    rw [renewed_store, renewed_store, h.merged, h.entryOf, h.storeClock]
    exact (h.store.set s.storeClock _ _).2
  ahead := by
    rw [renewed_elapsed, renewed_elapsed, h.tasks, h.budget]
    exact Span.plus_le_plus h.ahead _

theorem renew (h : Parallel c s s') (unbroken : ∀ b, (answered (s.renew c) s).1 ≠ .broken b) :
    (answered (s.renew c) s).1 = (answered (s'.renew c) s').1 ∧
      Parallel c (answered (s.renew c) s).2 (answered (s'.renew c) s').2 := by
  -- The longer run did not break down, and the shorter one has waited less.
  have shown : s.showsDeadlines = true := by
    cases hs : s.showsDeadlines with
    | true => rfl
    | false =>
      have broken : (answered (s.renew c) s).1 = .broken .deadline := by
        rw [answered_renew, hs, if_neg Bool.false_ne_true]
      exact absurd broken (unbroken .deadline)
  rw [answered_renew, answered_renew, if_pos shown, if_pos (h.showsDeadlines shown), h.merged]
  exact ⟨rfl, h.renewed⟩

theorem lookAct (h : Parallel c s s') : s'.lookAct c = s.lookAct c := by
  rw [Service.lookAct, Service.lookAct, h.storeClock, ← (h.store.load s.storeClock).1, h.today]

theorem look (h : Parallel c s s') : Parallel c (s.look c).2 (s'.look c).2 where
  settings := by rw [look_settings, look_settings, h.settings]
  scripts := by rw [look_clients, look_clients, h.scripts]
  today := by rw [look_today, look_today, h.today]
  storeClock := by rw [look_storeClock, look_storeClock, h.storeClock]
  store := by
    rw [look_store, look_store, h.storeClock]
    exact (h.store.load s.storeClock).2
  ahead := by
    rw [look_elapsed, look_elapsed]
    exact h.ahead

theorem observe (h : Parallel c s s') (o : Metrics.Origin) (took : Span) :
    Parallel c (s.observe o took) (s'.observe o took) :=
  ⟨h.settings, h.scripts, h.today, h.storeClock, h.store, h.ahead⟩

theorem invalidate (h : Parallel c s s') : (s.invalidate c).1 = (s'.invalidate c).1 ∧
    Parallel c (s.invalidate c).2 (s'.invalidate c).2 := by
  obtain ⟨answer, left⟩ := h.store.delete
  exact ⟨answer, h.settings, h.scripts, h.today, h.storeClock, left, h.ahead⟩

theorem change (h : Parallel c s s') (x : Change) : Parallel c (s.change x) (s'.change x) := by
  cases x with
  | today now => exact ⟨h.settings, h.scripts, rfl, h.storeClock, h.store, h.ahead⟩
  | refusals calls =>
    exact ⟨h.settings, h.scripts, h.today, h.storeClock, h.store.setRefused calls, h.ahead⟩
  | storeClock now => exact ⟨h.settings, h.scripts, h.today, rfl, h.store, h.ahead⟩
  | script place behaviour =>
    refine ⟨h.settings, ?_, h.today, h.storeClock, h.store, h.ahead⟩
    show (s'.clients.modify place _).map Client.script = (s.clients.modify place _).map Client.script
    rw [Client.map_script_modify, Client.map_script_modify, h.scripts]

/-- A step that concerns the case is answered alike, unless the longer run breaks down at it. -/
theorem step {x : Step} (h : Parallel c s s') (own : x.concerns c = true)
    (unbroken : ∀ b, (s.step x).1 ≠ .broken b) :
    (s.step x).1 = (s'.step x).1 ∧ Parallel c (s.step x).2 (s'.step x).2 := by
  cases x with
  | get forced d =>
    cases of_decide_eq_true own
    cases forced with
    | true => exact h.renew unbroken
    | false =>
      rcases s.lookAct_cases c with ⟨e, he⟩ | ⟨found, hf⟩
      · rw [step_of_served s c he, step_of_served s' c (h.lookAct.trans he)]
        exact ⟨rfl, h.look.observe .cache .zero⟩
      · rw [step_of_missed s c hf] at unbroken ⊢
        rw [step_of_missed s' c (h.lookAct.trans hf)]
        exact h.look.renew unbroken
  | refresh d =>
    cases of_decide_eq_true own
    exact h.invalidate.2.renew unbroken
  | invalidate d =>
    cases of_decide_eq_true own
    obtain ⟨answer, left⟩ := h.invalidate
    exact ⟨congrArg Answer.dropped answer, left⟩
  | change y => exact ⟨rfl, h.change y⟩

/-! ### Work for another case -/

theorem renew_other (h : Parallel c s s') (ne : keyOf c ≠ keyOf d) :
    Parallel c (answered (s.renew d) s).2 s' := by
  rw [answered_renew]
  split
  next shown =>
    exact {
      settings := by rw [renewed_settings, h.settings]
      scripts := by rw [renewed_scripts, h.scripts]
      today := by rw [renewed_today, h.today]
      storeClock := by rw [renewed_storeClock, h.storeClock]
      store := by
        rw [renewed_store]
        exact h.store.set_other ne s.storeClock _ _
      ahead := Nat.le_trans h.ahead (le_elapsed_renewed shown d) }
  next => exact h

theorem look_other (h : Parallel c s s') (ne : keyOf c ≠ keyOf d) : Parallel c (s.look d).2 s' where
  settings := by rw [look_settings, h.settings]
  scripts := by rw [look_clients, h.scripts]
  today := by rw [look_today, h.today]
  storeClock := by rw [look_storeClock, h.storeClock]
  store := by
    rw [look_store]
    exact h.store.load_other ne s.storeClock
  ahead := by
    rw [look_elapsed]
    exact h.ahead

theorem observe_other (h : Parallel c s s') (o : Metrics.Origin) (took : Span) :
    Parallel c (s.observe o took) s' :=
  ⟨h.settings, h.scripts, h.today, h.storeClock, h.store, h.ahead⟩

theorem invalidate_other (h : Parallel c s s') (ne : keyOf c ≠ keyOf d) :
    Parallel c (s.invalidate d).2 s' :=
  ⟨h.settings, h.scripts, h.today, h.storeClock, h.store.delete_other ne, h.ahead⟩

theorem step_other {x : Step} (h : Parallel c s s') (other : x.concerns c = false) :
    Parallel c (s.step x).2 s' := by
  cases x with
  | get forced d =>
    have ne := keyOf_ne_of_unconcerned other
    cases forced with
    | true => exact h.renew_other ne
    | false =>
      rcases s.lookAct_cases d with ⟨e, he⟩ | ⟨found, hf⟩
      · rw [step_of_served s d he]
        exact (h.look_other ne).observe_other .cache .zero
      · rw [step_of_missed s d hf]
        exact (h.look_other ne).renew_other ne
  | refresh d =>
    have ne := keyOf_ne_of_unconcerned other
    exact (h.invalidate_other ne).renew_other ne
  | invalidate d => exact h.invalidate_other (keyOf_ne_of_unconcerned other)
  | change y => cases other

/-! ### Runs -/

theorem run {xs : List Step} (h : Parallel c s s') (unbroken : ∀ b, .broken b ∉ s.answersTo c xs) :
    s.answersTo c xs = s'.answers (xs.filter (Step.concerns c)) ∧
      Parallel c (s.after xs) (s'.after (xs.filter (Step.concerns c))) := by
  -- On the steps of the longer run: those for other cases move it alone.
  induction xs generalizing s s' with
  | nil => exact ⟨rfl, h⟩
  | cons x xs ih =>
    rw [answersTo] at unbroken ⊢
    cases own : x.concerns c with
    | true =>
      rw [own] at unbroken
      have first : ∀ b, (s.step x).1 ≠ .broken b := by
        intro b hb
        exact unbroken b (hb ▸ List.mem_cons_self)
      obtain ⟨answer, left⟩ := h.step own first
      obtain ⟨answers, after⟩ := ih left fun b hb => unbroken b (List.mem_cons_of_mem _ hb)
      rw [List.filter_cons_of_pos own, if_pos rfl, answers, answer]
      exact ⟨rfl, after⟩
    | false =>
      rw [own] at unbroken
      rw [List.filter_cons_of_neg (by simp [own]), if_neg Bool.false_ne_true]
      exact ih (h.step_other own) unbroken

end Parallel

/-- What the steps of a run for other cases do to a case: nothing. -/
structure Isolated (s : Service) (c : CaseId) (xs : List Step) : Prop where
  answers : s.answersTo c xs = s.answers (xs.filter (Step.concerns c))
  slot : (s.after xs).store.slot? (keyOf c) =
    (s.after (xs.filter (Step.concerns c))).store.slot? (keyOf c)
  untouched : ∀ ys x zs, xs = ys ++ x :: zs → x.concerns c = false →
    ((s.after ys).step x).2.store.slot? (keyOf c) = (s.after ys).store.slot? (keyOf c)
  own : ∀ ys zs e, xs = ys ++ zs → (s.after ys).lookAct c = .served e → e.caseId = c

/-- In a store in memory, whatever it holds and refuses, if no work for the case breaks down. -/
theorem isolated_of_unbroken {s : Service} {c : CaseId} {xs : List Step}
    (inMemory : s.store.inside?.isSome) (unbroken : ∀ b, .broken b ∉ s.answersTo c xs) :
    s.Isolated c xs := by
  obtain ⟨m, hm⟩ := Option.isSome_iff_exists.1 inMemory
  have start : Parallel c s s :=
    ⟨rfl, rfl, rfl, rfl, .refl_of_inside hm (keyOf c), Nat.le_refl _⟩
  obtain ⟨answers, after⟩ := start.run unbroken
  exact {
    answers := answers
    slot := after.store.slot?_eq
    untouched := fun _ _ _ _ other => slot?_step_of_unconcerned other
    own := fun _ _ _ _ served => caseId_of_served served }

/-- A service whose one source takes all the time that it has, nearly two years. -/
def waiting (deadline : Span) : Service :=
  .new { TimelineSettings.default with
      perSourceTimeout := .ofSeconds 60000000
      aggregationDeadline := deadline }
    [.new .order .hangs] (.memory .empty) ⟨.ofSeconds 1000000, 0⟩ .latest

theorem isolated_waiting :
    let xs := [Step.get false Store.oneLetter, .get false someCase, .invalidate Store.oneLetter]
    (∀ b, .broken b ∉ (waiting (.ofSeconds 60)).answersTo someCase xs) ∧
      (waiting (.ofSeconds 60)).Isolated someCase xs := by
  intro xs
  have answers : ∃ t, (waiting (.ofSeconds 60)).answersTo someCase xs = [.timeline t] := ⟨_, rfl⟩
  have unbroken : ∀ b, .broken b ∉ (waiting (.ofSeconds 60)).answersTo someCase xs := by
    obtain ⟨t, ht⟩ := answers
    intro b hb
    rw [ht] at hb
    cases List.mem_singleton.1 hb
  exact ⟨unbroken, isolated_of_unbroken rfl unbroken⟩

/-- A service whose deadlines end nearly as late as the clock of the machine does: fifty million seconds
before. -/
def stretched : Service := waiting (.ofSeconds (1 <<< 63 - 1 - 50000000))

/-- Not every run isolates a case: waiting for another one may take the clock of the machine so far that
it does not show the next deadline. -/
theorem exposed_stretched :
    ¬∀ (s : Service) (c : CaseId) (xs : List Step), s.store.inside?.isSome →
      s.answersTo c xs = s.answers (xs.filter (Step.concerns c)) := by
  intro all
  have alike := all stretched someCase [.get false Store.oneLetter, .get false someCase] rfl
  have missed : (stretched.step (.get false Store.oneLetter)).2.lookAct someCase =
      .missed someCase (.ok none) := rfl
  have hidden : ((stretched.step (.get false Store.oneLetter)).2.look someCase).2.showsDeadlines =
      false := by decide +kernel
  have broken : stretched.answersTo someCase [.get false Store.oneLetter, .get false someCase] =
      [.broken .deadline] := by
    rw [answersTo, if_neg (by decide), answersTo, if_pos (by decide), step_of_missed _ _ missed,
      answered_renew, hidden]
    rfl
  have missedAlone : stretched.lookAct someCase = .missed someCase (.ok none) := rfl
  have shown : (stretched.look someCase).2.showsDeadlines = true := by decide +kernel
  have alone : stretched.answers ([.get false Store.oneLetter, .get false someCase].filter
      (Step.concerns someCase)) = [.timeline (stretched.look someCase).2.merged] := by
    show [(stretched.step (.get false someCase)).1] = _
    rw [step_of_missed _ _ missedAlone, answered_renew, if_pos shown]
  rw [broken, alone] at alike
  cases alike

end Service
end Casebook
