import Casebook.Proofs.Collection.Enlisting
import Casebook.Proofs.Service.Freshness

/-!
# The first client of a source

Of the clients of a source the first one in the list is called by every collection, and no other one ever
is. Two services with the same leading clients go side by side through their runs: they give the same
answers and differ in nothing but their clients, wherever these stand and whatever duplicates they have.
-/

namespace Casebook

open Collection (Behaviour Client)

/-- Steps that mean the same to two lists of clients. Other behaviour has to come to the first clients of
one source, or on both sides to a client that is not the first of its source, or to none. -/
inductive Step.Matches (ts us : List Source) : Step → Step → Prop where
  | same {x : Step} (h : ∀ place b, x ≠ .change (.script place b)) : Matches ts us x x
  | leading {p q : Nat} (b : Behaviour) (h : Client.firstAt ts p = Client.firstAt us q) :
      Matches ts us (.change (.script p b)) (.change (.script q b))
  | unseen {p q : Nat} (b b' : Behaviour) (hp : Client.firstAt ts p = none)
      (hq : Client.firstAt us q = none) :
      Matches ts us (.change (.script p b)) (.change (.script q b'))

def Act.isCollection : Act → Bool
  | .renewed .. => true
  | _ => false

namespace Service

/-! ### Calls in a run -/

theorem isFirst_congr {cs ds : List Client} (h : ds.map (·.source) = cs.map (·.source)) {c d : Client}
    (same : d.source = c.source) (place : Nat) :
    Client.isFirst ds place d = Client.isFirst cs place c := by
  rw [Client.isFirst, Client.isFirst, List.map_take, List.map_take, h, same]

theorem map_source_renewed (s : Service) (c : CaseId) :
    (s.renewed c).clients.map (·.source) = s.clients.map (·.source) :=
  Client.map_source_of_scripts (s.renewed_scripts c)

theorem turns_cases (s : Service) : s.turns = 0 ∨ s.turns = 1 := by
  rw [turns]
  split
  · exact .inl rfl
  · exact .inr rfl

/-- A collection that has time asks the first client of each source and leaves all others alone. -/
theorem getElem?_renewed (s : Service) (c : CaseId) (place : Nat) :
    (s.renewed c).clients[place]? = s.clients[place]?.map fun d =>
      if s.turns = 1 ∧ Client.isFirst s.clients place d then d.ask s.sourceDeadline else d := by
  have clients : (s.renewed c).clients = (s.collectedBy s.inTime).clients := by rw [renewed, keep_eq]
  rw [clients, collectedBy, turns]
  by_cases none : s.budget.total = 0
  · rw [if_pos none, if_pos (s.total_eq_zero_iff.1 none)]
    simp
  · rw [if_neg none, if_neg fun h => none (s.total_eq_zero_iff.2 h), Client.getElem?_askAll]
    simp

/-- What has come of the clients of a service: each first one was called by every collection, and the
others are as they were. -/
structure Called (start : Service) (past : List Act) (s : Service) : Prop where
  settings : s.settings = start.settings
  places : s.clients.map (·.source) = start.clients.map (·.source)
  calls : ∀ place c, start.clients[place]? = some c → ∃ c', s.clients[place]? = some c' ∧
    c'.source = c.source ∧
    c'.calls = c.calls +
      (if Client.isFirst start.clients place c then start.turns * past.countP Act.isCollection else 0) ∧
    (Client.isFirst start.clients place c = false → c'.deadline = c.deadline)

namespace Called

variable {start s s' : Service} {past : List Act}

theorem idle (h : Called start past s) {a : Act} (idle : a.isCollection = false)
    (settings : s'.settings = s.settings) (clients : s'.clients = s.clients) :
    Called start (past ++ [a]) s' where
  settings := settings.trans h.settings
  places := by rw [clients, h.places]
  calls := by
    intro place c hc
    rw [clients, List.countP_append, List.countP_singleton, idle]
    exact h.calls place c hc

theorem renewed (h : Called start past s) (c : CaseId) :
    Called start (past ++ [s.renewAct c]) (s.renewed c) where
  settings := (s.renewed_settings c).trans h.settings
  places := (s.map_source_renewed c).trans h.places
  calls := by
    intro place d hd
    obtain ⟨d', hd', source, calls, deadline⟩ := h.calls place d hd
    have first := isFirst_congr h.places source place
    have turns : s.turns = start.turns := by rw [Service.turns, Service.turns, h.settings]
    have more : (past ++ [s.renewAct c]).countP Act.isCollection =
        past.countP Act.isCollection + 1 := by
      rw [List.countP_append]
      rfl
    rw [s.getElem?_renewed, hd', Option.map_some, first, turns, more]
    refine ⟨_, rfl, ?_, ?_, ?_⟩
    · split <;> exact source
    · by_cases isFirst : Client.isFirst start.clients place d = true
      · rw [if_pos isFirst] at calls ⊢
        rcases start.turns_cases with none | one
        · rw [none, Nat.zero_mul] at calls ⊢
          rw [if_neg fun h => Nat.zero_ne_one h.1]
          exact calls
        · rw [one, Nat.one_mul] at calls ⊢
          rw [if_pos ⟨rfl, isFirst⟩, ← Nat.add_assoc, ← calls]
          rfl
      · rw [if_neg isFirst] at calls ⊢
        rw [if_neg fun h => isFirst h.2]
        exact calls
    · intro later
      rw [if_neg (by simp [later])]
      exact deadline later

theorem change (h : Called start past s) (x : Change) : Called start past (s.change x) where
  settings := by
    cases x with
    | today now => exact h.settings
    | refusals calls => exact h.settings
    | storeClock now => exact h.settings
    | script place behaviour => exact h.settings
  places := (s.map_source_change x).trans h.places
  calls := by
    intro place d hd
    obtain ⟨d', hd', source, calls, deadline⟩ := h.calls place d hd
    cases x with
    | today now => exact ⟨d', hd', source, calls, deadline⟩
    | refusals refused => exact ⟨d', hd', source, calls, deadline⟩
    | storeClock now => exact ⟨d', hd', source, calls, deadline⟩
    | script changed behaviour =>
      refine ⟨if changed = place then { d' with behaviour } else d', ?_, ?_⟩
      · show (s.clients.modify changed _)[place]? = _
        rw [List.getElem?_modify, hd']
        split <;> rfl
      · split
        · exact ⟨source, calls, deadline⟩
        · exact ⟨source, calls, deadline⟩

end Called

theorem lasting_called (start : Service) : Lasting (fun _ => True) (Called start) where
  served := by
    intro past s c e h _
    exact h.idle rfl (s.look_settings c) (s.look_clients c)
  missed := by
    intro past s c found h _
    exact h.idle rfl (s.look_settings c) (s.look_clients c)
  renewed := fun h _ => h.renewed _
  dropped := fun h => h.idle rfl rfl rfl
  changed := fun h _ => h.change _

/-- In every run, with whatever the world does in between. -/
theorem called_after (s : Service) (xs : List Step) : Called s (s.history xs) (s.after xs) := by
  have start : Called s [] s := by
    refine ⟨rfl, rfl, fun place c hc => ⟨c, hc, rfl, ?_, fun _ => rfl⟩⟩
    rw [List.countP_nil, Nat.mul_zero, ite_self, Nat.add_zero]
  exact (lasting_called s).run (fun _ _ => trivial) start

/-! ### Services that are led alike -/

/-- Services that differ in nothing but their clients, and these lead their sources alike. At each place
the same source stays. -/
structure Led (ts us : List Source) (s s' : Service) : Prop where
  settings : s'.settings = s.settings
  store : s'.store = s.store
  metrics : s'.metrics = s.metrics
  today : s'.today = s.today
  elapsed : s'.elapsed = s.elapsed
  storeClock : s'.storeClock = s.storeClock
  lead : Client.lead s'.clients = Client.lead s.clients
  places : s.clients.map (·.source) = ts
  places' : s'.clients.map (·.source) = us

namespace Led

variable {ts us : List Source} {s s' : Service}

theorem showsDeadlines (h : Led ts us s s') : s'.showsDeadlines = s.showsDeadlines := by
  simp only [Service.showsDeadlines, reaches, h.settings, h.elapsed, h.storeClock]

theorem budget (h : Led ts us s s') : s'.budget = s.budget := by
  rw [Service.budget, Service.budget, h.settings]

theorem tasks (h : Led ts us s s') : s'.tasks = s.tasks := by
  rw [Service.tasks, Service.tasks, h.budget, Client.tasks_of_lead _ h.lead]

theorem inTime (h : Led ts us s s') : s'.inTime = s.inTime := by
  rw [Service.inTime, Service.inTime, h.budget, h.tasks]

theorem sources (h : Led ts us s s') : s'.sources = s.sources := Client.sources_of_lead h.lead

theorem merged (h : Led ts us s s') : s'.merged = s.merged := by
  rw [Service.merged, Service.merged, mergedBy, mergedBy, h.inTime, h.sources]

theorem entryOf (h : Led ts us s s') (c : CaseId) (t : Timeline) :
    s'.entryOf c t = s.entryOf c t := by
  rw [Service.entryOf, Service.entryOf, h.settings, h.today]

theorem renewed (h : Led ts us s s') (c : CaseId) : Led ts us (s.renewed c) (s'.renewed c) where
  settings := by rw [renewed_settings, renewed_settings, h.settings]
  store := by
    rw [renewed_store, renewed_store, h.store, h.storeClock, h.merged, h.entryOf]
  metrics := by
    rw [renewed_metrics, renewed_metrics, h.metrics, h.sources, h.inTime, h.budget, h.tasks, h.store,
      h.storeClock, h.merged, h.entryOf]
  today := by rw [renewed_today, renewed_today, h.today]
  elapsed := by rw [renewed_elapsed, renewed_elapsed, h.elapsed, h.budget, h.tasks]
  storeClock := by rw [renewed_storeClock, renewed_storeClock, h.storeClock]
  lead := by
    rw [Client.lead_of_scripts (s'.renewed_scripts c), Client.lead_of_scripts (s.renewed_scripts c),
      h.lead]
  places := (s.map_source_renewed c).trans h.places
  places' := (s'.map_source_renewed c).trans h.places'

theorem renew (h : Led ts us s s') (c : CaseId) :
    (answered (s'.renew c) s').1 = (answered (s.renew c) s).1 ∧
      Led ts us (answered (s.renew c) s).2 (answered (s'.renew c) s').2 := by
  rw [answered_renew, answered_renew, h.showsDeadlines, h.merged]
  split
  next => exact ⟨rfl, h.renewed c⟩
  next => exact ⟨rfl, h⟩

theorem lookAct (h : Led ts us s s') (c : CaseId) : s'.lookAct c = s.lookAct c := by
  rw [Service.lookAct, Service.lookAct, h.store, h.storeClock, h.today]

theorem look (h : Led ts us s s') (c : CaseId) : Led ts us (s.look c).2 (s'.look c).2 where
  settings := by rw [look_settings, look_settings, h.settings]
  store := by rw [look_store, look_store, h.store, h.storeClock]
  metrics := by
    rcases s.lookAct_cases c with ⟨e, he⟩ | ⟨found, hf⟩
    · rw [(s.look_of_served c he).2.2, (s'.look_of_served c ((h.lookAct c).trans he)).2.2, h.metrics]
    · rw [(s.look_of_missed c hf).2.2.2, (s'.look_of_missed c ((h.lookAct c).trans hf)).2.2.2,
        h.metrics]
  today := by rw [look_today, look_today, h.today]
  elapsed := by rw [look_elapsed, look_elapsed, h.elapsed]
  storeClock := by rw [look_storeClock, look_storeClock, h.storeClock]
  lead := by rw [look_clients, look_clients, h.lead]
  places := by rw [look_clients, h.places]
  places' := by rw [look_clients, h.places']

theorem observe (h : Led ts us s s') (o : Metrics.Origin) (took : Span) :
    Led ts us (s.observe o took) (s'.observe o took) :=
  { h with metrics := congrArg (·.observeCollection o (secondsOf took)) h.metrics }

theorem invalidate (h : Led ts us s s') (c : CaseId) : (s'.invalidate c).1 = (s.invalidate c).1 ∧
    Led ts us (s.invalidate c).2 (s'.invalidate c).2 := by
  have dropped : s'.store.drop c = s.store.drop c := by rw [h.store]
  have answer : (s'.invalidate c).1 = (s.invalidate c).1 := congrArg (·.1) dropped
  refine ⟨answer, { h with store := congrArg (·.2) dropped, metrics := ?_ }⟩
  show s'.metrics.countCache (if (s'.store.drop c).1.toBool then .invalidate else .error) = _
  rw [dropped, h.metrics]
  rfl

/-- What becomes of the client at a place shows only if it is the first one of its source. -/
theorem script (h : Led ts us s s') {p q : Nat} {b b' : Behaviour}
    (same : ∀ t, (if Client.firstAt us q = some t then some b' else Client.lead s.clients t) =
      if Client.firstAt ts p = some t then some b else Client.lead s.clients t) :
    Led ts us (s.change (.script p b)) (s'.change (.script q b')) where
  settings := h.settings
  store := h.store
  metrics := h.metrics
  today := h.today
  elapsed := h.elapsed
  storeClock := h.storeClock
  lead := by
    funext t
    show Client.lead (s'.clients.modify q _) t = Client.lead (s.clients.modify p _) t
    rw [Client.lead_modify, Client.lead_modify, h.places, h.places', h.lead]
    exact same t
  places := (s.map_source_change _).trans h.places
  places' := (s'.map_source_change _).trans h.places'

theorem step {x y : Step} (h : Led ts us s s') (m : x.Matches ts us y) :
    (s'.step y).1 = (s.step x).1 ∧ Led ts us (s.step x).2 (s'.step y).2 := by
  cases m with
  | leading b first => exact ⟨rfl, h.script fun t => by rw [first]⟩
  | unseen b b' hp hq => exact ⟨rfl, h.script fun t => by simp only [hp, hq, reduceCtorEq, if_false]⟩
  | same other =>
    cases x with
    | get forced c =>
      cases forced with
      | true => exact h.renew c
      | false =>
        rcases s.lookAct_cases c with ⟨e, he⟩ | ⟨found, hf⟩
        · rw [step_of_served s c he, step_of_served s' c ((h.lookAct c).trans he)]
          exact ⟨rfl, (h.look c).observe .cache .zero⟩
        · rw [step_of_missed s c hf, step_of_missed s' c ((h.lookAct c).trans hf)]
          exact (h.look c).renew c
    | refresh c => exact (h.invalidate c).2.renew c
    | invalidate c =>
      obtain ⟨answer, left⟩ := h.invalidate c
      exact ⟨congrArg Answer.dropped answer, left⟩
    | change x =>
      refine ⟨rfl, ?_⟩
      cases x with
      | today now => exact { h with today := rfl }
      | refusals calls => exact { h with store := congrArg (·.setRefused calls) h.store }
      | storeClock now => exact { h with storeClock := rfl }
      | script place b => exact absurd rfl (other place b)

/-- Matching runs are answered alike and leave services that are led alike. -/
theorem run {xs ys : List Step} (h : Led ts us s s') (m : List.Forall₂ (Step.Matches ts us) xs ys) :
    s'.answers ys = s.answers xs ∧ Led ts us (s.after xs) (s'.after ys) := by
  induction m generalizing s s' with
  | nil => exact ⟨rfl, h⟩
  | cons first rest ih =>
    obtain ⟨answer, left⟩ := h.step first
    obtain ⟨answers, after⟩ := ih left
    rw [Service.answers, Service.answers, answer, answers]
    exact ⟨rfl, after⟩

end Led

/-! ### Lists with the same first clients -/

theorem exists_matches {ts us : List Source} (same : ∀ t, t ∈ ts ↔ t ∈ us) (x : Step) :
    ∃ y, x.Matches ts us y := by
  by_cases script : ∃ p b, x = .change (.script p b)
  · obtain ⟨p, b, rfl⟩ := script
    cases first : Client.firstAt ts p with
    | none =>
      have nowhere := Client.firstAt_length us
      exact ⟨.change (.script us.length b), .leading b (first.trans nowhere.symm)⟩
    | some t =>
      have stands : ts[p]? = some t := (Option.filter_eq_some_iff.1 first).1
      have there := Client.firstAt_idxOf ((same t).1 (List.mem_of_getElem? stands))
      exact ⟨.change (.script (us.idxOf t) b), .leading b (first.trans there.symm)⟩
  · exact ⟨x, .same fun p b e => script ⟨p, b, e⟩⟩

/-- Runs that mean the same to two lists of clients, step by step. -/
def RunsMatch (cs ds : List Client) : List Step → List Step → Prop :=
  List.Forall₂ (Step.Matches (cs.map (·.source)) (ds.map (·.source)))

theorem exists_runsMatch {cs ds : List Client} (lead : Client.lead ds = Client.lead cs)
    (xs : List Step) : ∃ ys, RunsMatch cs ds xs ys := by
  have occurs : ∀ (l : List Client) (t : Source),
      t ∈ l.map (·.source) ↔ (Client.lead l t).isSome = true := by
    intro l t
    rw [Client.isSome_lead, List.any_eq_true, List.mem_map]
    simp only [decide_eq_true_eq]
  have same : ∀ t, t ∈ cs.map (·.source) ↔ t ∈ ds.map (·.source) := by
    intro t
    rw [occurs, occurs, lead]
  induction xs with
  | nil => exact ⟨[], .nil⟩
  | cons x xs ih =>
    obtain ⟨y, first⟩ := exists_matches same x
    obtain ⟨ys, rest⟩ := ih
    exact ⟨y :: ys, .cons first rest⟩

theorem runsMatch_of_unscripted {cs ds : List Client} {xs : List Step}
    (unscripted : ∀ place b, .change (.script place b) ∉ xs) : RunsMatch cs ds xs xs := by
  refine List.forall₂_same.2 fun x hx => .same fun place b same => ?_
  exact unscripted place b (same ▸ hx)

def withClients (s : Service) (cs : List Client) : Service := { s with clients := cs }

theorem Led.withClients_eq {ts us : List Source} {s s' : Service} (h : Led ts us s s') :
    s'.withClients s.clients = s := by
  simp only [withClients, h.settings, h.store, h.metrics, h.today, h.elapsed, h.storeClock]

/-- A service and the same one with other clients cannot be told apart: in runs that mean the same to
both they give the same answers, and after them they differ in their clients alone. -/
structure Indistinct (s : Service) (cs : List Client) : Prop where
  exists_run : ∀ xs, ∃ ys, RunsMatch s.clients cs xs ys
  answers : ∀ xs ys, RunsMatch s.clients cs xs ys →
    (s.withClients cs).answers ys = s.answers xs
  rest : ∀ xs ys, RunsMatch s.clients cs xs ys →
    ((s.withClients cs).after ys).withClients (s.after xs).clients = s.after xs
  unscripted : ∀ xs, (∀ place b, .change (.script place b) ∉ xs) →
    (s.withClients cs).answers xs = s.answers xs

theorem indistinct_of_lead {s : Service} {cs : List Client}
    (lead : Client.lead cs = Client.lead s.clients) : s.Indistinct cs := by
  have start : Led (s.clients.map (·.source)) (cs.map (·.source)) s (s.withClients cs) :=
    ⟨rfl, rfl, rfl, rfl, rfl, rfl, lead, rfl, rfl⟩
  exact {
    exists_run := exists_runsMatch lead
    answers := fun xs ys m => (start.run m).1
    rest := fun xs ys m => (start.run m).2.withClients_eq
    unscripted := fun xs h => (start.run (runsMatch_of_unscripted h)).1 }

/-- Of the clients of each source the first one counts, and only it: it is the one that is enlisted, asked
and called in every run, and what else the list holds and where shows in no answer. -/
structure FirstWins (s : Service) : Prop where
  enlisted : s.clients.foldl Client.enlist [] = Client.registered s.clients
  sources : s.sources = Source.all.filter fun t => s.clients.any fun c => c.source = t
  first : ∀ c ∈ Client.registered s.clients,
    s.clients.find? (fun d => d.source = c.source) = some c
  asked : ∀ deadline, Client.registered (Client.askAll deadline s.clients) =
    (Client.registered s.clients).map (Client.ask deadline)
  called : ∀ xs, s.Called (s.history xs) (s.after xs)
  led : ∀ cs, Client.lead cs = Client.lead s.clients → s.Indistinct cs
  without_duplicates : s.Indistinct (Client.registered s.clients)
  rearranged : ∀ cs, (∀ t, (cs.filter fun c => c.source = t) =
    s.clients.filter fun c => c.source = t) → s.Indistinct cs

theorem firstWins (s : Service) : s.FirstWins where
  enlisted := Client.foldl_enlist s.clients
  sources := Client.sources_eq s.clients
  first := fun _ => Client.source_of_mem_registered
  asked := fun deadline => Client.registered_askAll deadline s.clients
  called := s.called_after
  led := fun _ lead => indistinct_of_lead lead
  without_duplicates := indistinct_of_lead (Client.lead_registered s.clients)
  rearranged := fun _ same => indistinct_of_lead (Client.lead_of_filter same)

end Service
end Casebook
