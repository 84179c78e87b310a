import Casebook.Proofs.Collection.Joining
import Mathlib.Data.List.Basic

/-!
# Enlisting clients

Clients are enlisted one by one under their sources. An insertion would put a later client in the place
of an earlier one, so it is made only for a source that is not there yet; what comes out is the first
client of each source. Which tasks a collection has is told by how these lead their sources alone, in
whatever places of the list they stand and whatever stands beside them.
-/

namespace Casebook.Collection.Client

/-! ### The roster -/

variable {c : Client} {cs ds : List Client}

theorem insert_of_forall (first : ∀ d ∈ cs, c.source.rank < d.source.rank) :
    insert c cs = c :: cs := by
  cases cs with
  | nil => rfl
  | cons d ds => exact if_pos (first d List.mem_cons_self)

/-- Clients that are listed by their sources in order, with one more. -/
theorem insert_filterMap {f : Source → Option Client} (own : ∀ t d, f t = some d → d.source = t)
    {l : List Source} (sorted : l.Pairwise fun t u => t.rank < u.rank) (listed : c.source ∈ l) :
    insert c (l.filterMap f) = l.filterMap fun t => if t = c.source then some c else f t := by
  induction l with
  | nil => cases listed
  | cons t l ih =>
    obtain ⟨behind, sorted⟩ := List.pairwise_cons.1 sorted
    simp only [List.filterMap_cons]
    by_cases here : t = c.source
    · have later : ∀ u ∈ l, c.source.rank < u.rank := fun u hu => here ▸ behind u hu
      have others : (l.filterMap fun u => if u = c.source then some c else f u) = l.filterMap f := by
        refine List.filterMap_congr fun u hu => if_neg ?_
        rintro rfl
        exact Nat.lt_irrefl _ (later c.source hu)
      rw [if_pos here, others]
      cases found : f t with
      | none =>
        refine insert_of_forall fun d hd => ?_
        obtain ⟨u, hu, ofSource⟩ := List.mem_filterMap.1 hd
        rw [own u d ofSource]
        exact later u hu
      | some d =>
        have same : c.source = d.source := by rw [own t d found, here]
        simp only [insert]
        rw [if_neg (same ▸ Nat.lt_irrefl _), if_pos same]
    · have listed' := (List.mem_cons.1 listed).resolve_left (Ne.symm here)
      rw [if_neg here, ← ih sorted listed']
      cases found : f t with
      | none => rfl
      | some d =>
        have earlier : d.source.rank < c.source.rank := by
          rw [own t d found]
          exact behind c.source listed'
        have apart : c.source ≠ d.source := fun same => Nat.lt_irrefl _ (same ▸ earlier)
        simp only [insert]
        rw [if_neg (Nat.lt_asymm earlier), if_neg apart]

theorem enlist_registered (cs : List Client) (c : Client) :
    enlist (registered cs) c = registered (cs ++ [c]) := by
  have other : ∀ t, t ≠ c.source → ((cs ++ [c]).find? fun d => d.source = t) =
      cs.find? fun d => d.source = t := by
    intro t ne
    rw [List.find?_append, List.find?_singleton, if_neg (by simpa using ne.symm), Option.or_none]
  have known : (registered cs).any (fun d => d.source = c.source) =
      (cs.find? fun d => d.source = c.source).isSome := by
    rw [Bool.eq_iff_iff, List.any_eq_true, List.find?_isSome]
    have listed := @mem_sources cs c.source
    simpa [sources] using listed
  rw [enlist, known]
  cases found : cs.find? fun d => d.source = c.source with
  | some d =>
    refine List.filterMap_congr fun t _ => ?_
    by_cases same : t = c.source
    · rw [same, List.find?_append, found, Option.some_or]
    · rw [other t same]
  | none =>
    refine (insert_filterMap ?_ (by decide) (Source.mem_all c.source)).trans ?_
    · intro t d hd
      simpa using List.find?_some hd
    · refine List.filterMap_congr fun t _ => ?_
      by_cases same : t = c.source
      · rw [if_pos same, same, List.find?_append, found, Option.none_or, List.find?_singleton]
        simp
      · rw [if_neg same, other t same]

/-- Enlisting all clients of a list, in its order, keeps the first one of each source. -/
theorem foldl_enlist (cs : List Client) : cs.foldl enlist [] = registered cs := by
  -- On the clients that are left: those before them are on the roster already.
  have from_roster : ∀ cs ds, List.foldl enlist (registered ds) cs = registered (ds ++ cs) := by
    intro cs
    induction cs with
    | nil => intro ds; rw [List.foldl_nil, List.append_nil]
    | cons c cs ih =>
      intro ds
      rw [List.foldl_cons, enlist_registered, ih, List.append_assoc, List.singleton_append]
  exact from_roster cs []

example : [new .payment .hangs, new .order .hangs, new .order .breaks].foldl enlist [] =
    [new .order .hangs, new .payment .hangs] := by decide

/-! ### The clients that lead their sources -/

/-- How the first client of a source behaves. -/
def lead (cs : List Client) (t : Source) : Option Behaviour :=
  (cs.find? fun c => c.source = t).map (·.behaviour)

theorem lead_eq_scripts (cs : List Client) (t : Source) :
    lead cs t = ((cs.map script).find? fun p => p.1 = t).map (·.2) := by
  rw [lead, List.find?_map, Option.map_map]
  rfl

theorem lead_of_scripts (h : ds.map script = cs.map script) : lead ds = lead cs := by
  funext t
  rw [lead_eq_scripts, lead_eq_scripts, h]

theorem isSome_lead (cs : List Client) (t : Source) :
    (lead cs t).isSome = cs.any fun c => c.source = t := by
  rw [lead, Option.isSome_map]
  exact List.isSome_find?

theorem sources_of_lead (h : lead ds = lead cs) : sources ds = sources cs := by
  rw [sources_eq, sources_eq]
  refine List.filter_congr fun t _ => ?_
  rw [← isSome_lead, ← isSome_lead, h]

theorem tasks_of_lead (b : Budget) (h : lead ds = lead cs) : tasks b ds = tasks b cs := by
  have byLead : ∀ cs : List Client, tasks b cs = Source.all.filterMap fun t =>
      (lead cs t).map fun x => ⟨t, (x.run b).1, (x.run b).2⟩ := by
    intro cs
    rw [tasks_eq, registered, List.map_filterMap]
    refine List.filterMap_congr fun t _ => ?_
    rw [lead, Option.map_map]
    cases found : cs.find? fun c => c.source = t with
    | none => rfl
    | some c =>
      have own : c.source = t := by simpa using List.find?_some found
      rw [Option.map_some, Option.map_some, ← own]
      rfl
  rw [byLead ds, byLead cs, h]

theorem find?_registered (cs : List Client) (t : Source) :
    (registered cs).find? (fun c => c.source = t) = cs.find? fun c => c.source = t := by
  cases found : (registered cs).find? fun c => c.source = t with
  | some c =>
    have own : c.source = t := by simpa using List.find?_some found
    rw [← own, source_of_mem_registered (List.mem_of_find?_eq_some found)]
  | none =>
    have none_there := List.find?_eq_none.1 found
    refine (List.find?_eq_none.2 fun c hc own => ?_).symm
    obtain ⟨d, hd, same⟩ := List.mem_map.1 (mem_sources.2 ⟨c, hc, of_decide_eq_true own⟩)
    exact none_there d hd (decide_eq_true same)

theorem lead_registered (cs : List Client) : lead (registered cs) = lead cs := by
  funext t
  rw [lead, lead, find?_registered]

theorem lead_of_filter (h : ∀ t, ds.filter (fun c => c.source = t) = cs.filter fun c => c.source = t) :
    lead ds = lead cs := by
  funext t
  rw [lead, lead, ← List.head?_filter, ← List.head?_filter, h]

/-! ### Asking -/

theorem source_ask (deadline : Span) (c : Client) : (c.ask deadline).source = c.source := rfl

theorem find?_askAll (deadline : Span) (cs : List Client) (t : Source) :
    (askAll deadline cs).find? (fun c => c.source = t) =
      (cs.find? fun c => c.source = t).map (ask deadline) := by
  have first : ∀ (cs : List Client) (done : List Source), t ∉ done →
      (askFirst deadline done cs).find? (fun c => c.source = t) =
        (cs.find? fun c => c.source = t).map (ask deadline) := by
    intro cs
    induction cs with
    | nil => exact fun _ _ => rfl
    | cons c cs ih =>
      intro done unasked
      rw [askFirst]
      by_cases own : c.source = t
      · rw [if_neg (own ▸ unasked)]
        rw [List.find?_cons, source_ask]
        simp only [List.find?_cons, own, decide_true, Option.map_some]
      · simp only [List.find?_cons, own, decide_false]
        split
        next =>
          simp only [List.find?_cons, own, decide_false]
          exact ih done unasked
        next =>
          have unasked' : t ∉ c.source :: done := by simpa using ⟨Ne.symm own, unasked⟩
          rw [List.find?_cons, source_ask]
          simp only [own, decide_false]
          exact ih _ unasked'
  exact first cs [] List.not_mem_nil

/-- The clients that a collection asks are those on the roster, each of them once. -/
theorem registered_askAll (deadline : Span) (cs : List Client) :
    registered (askAll deadline cs) = (registered cs).map (ask deadline) := by
  rw [registered, registered, List.map_filterMap]
  exact List.filterMap_congr fun t _ => find?_askAll deadline cs t

/-! ### Other behaviour at a place -/

/-- The source that stands at a place for the first time in a list. -/
def firstAt (ts : List Source) (place : Nat) : Option Source :=
  ts[place]?.filter fun t => t ∉ ts.take place

theorem firstAt_cons_zero (u : Source) (ts : List Source) : firstAt (u :: ts) 0 = some u := by
  simp [firstAt]

theorem firstAt_cons_succ_iff {t u : Source} {ts : List Source} {place : Nat} :
    firstAt (u :: ts) (place + 1) = some t ↔ t ≠ u ∧ firstAt ts place = some t := by
  simp only [firstAt, List.getElem?_cons_succ, List.take_succ_cons, Option.filter_eq_some_iff,
    List.mem_cons, decide_eq_true_eq, not_or]
  tauto

theorem firstAt_idxOf {t : Source} {ts : List Source} (ht : t ∈ ts) :
    firstAt ts (ts.idxOf t) = some t := by
  refine Option.filter_eq_some_iff.2 ⟨List.getElem?_idxOf ht, decide_eq_true fun before => ?_⟩
  exact Nat.lt_irrefl _ ((List.mem_take_iff_idxOf_lt ht).1 before)

theorem firstAt_length (ts : List Source) : firstAt ts ts.length = none := by
  rw [firstAt, List.getElem?_length, Option.filter_none]

/-- Other behaviour shows in how a source is led only at the place of its first client. -/
theorem lead_modify (x : Behaviour) (cs : List Client) (place : Nat) (t : Source) :
    lead (cs.modify place fun c => { c with behaviour := x }) t =
      if firstAt (cs.map (·.source)) place = some t then some x else lead cs t := by
  have lead_cons : ∀ (c : Client) (cs : List Client),
      lead (c :: cs) t = if c.source = t then some c.behaviour else lead cs t := by
    intro c cs
    by_cases own : c.source = t <;> simp [lead, own]
  induction cs generalizing place with
  | nil => simp [firstAt]
  | cons c cs ih =>
    cases place with
    | zero =>
      rw [List.modify_zero_cons, lead_cons, lead_cons, List.map_cons, firstAt_cons_zero]
      simp only [Option.some_inj]
      split <;> rfl
    | succ place =>
      rw [List.modify_succ_cons, lead_cons, lead_cons, ih, List.map_cons]
      simp only [firstAt_cons_succ_iff]
      by_cases own : c.source = t
      · simp [own]
      · simp [own, Ne.symm own]

end Casebook.Collection.Client
