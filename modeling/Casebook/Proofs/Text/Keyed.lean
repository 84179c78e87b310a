import Casebook.Text.Keyed

/-!
# Looking up in lists sorted by name

What a look-up finds after inserting and erasing, and the list that sorting gives back unchanged: the
sorted one. A sorted list is one order of its members, so that look-ups, insertions and erasures can be
told of the members in any order.
-/

namespace Casebook.Keyed

variable {α : Type}

theorem find?_cons (name : String) (k : String) (v : α) (l : List (String × α)) :
    find? name ((k, v) :: l) = if k = name then some v else find? name l := by
  rw [find?, List.find?_cons]
  by_cases h : k = name
  · simp [h]
  · simp [h, find?]

theorem find?_insert_self (name : String) (v : α) (l : List (String × α)) :
    find? name (insert name v l) = some v := by
  induction l with
  | nil => rw [insert, find?_cons, if_pos rfl]
  | cons a r ih =>
    obtain ⟨k, w⟩ := a
    rw [insert]
    by_cases hlt : name < k
    · rw [if_pos hlt, find?_cons, if_pos rfl]
    rw [if_neg hlt]
    by_cases heq : name = k
    · rw [if_pos heq, find?_cons, if_pos rfl]
    · rw [if_neg heq, find?_cons, if_neg (Ne.symm heq), ih]

theorem find?_insert_of_ne {name other : String} (v : α) (l : List (String × α))
    (hne : other ≠ name) : find? other (insert name v l) = find? other l := by
  induction l with
  | nil => rw [insert, find?_cons, if_neg (Ne.symm hne)]
  | cons a r ih =>
    obtain ⟨k, w⟩ := a
    rw [insert]
    by_cases hlt : name < k
    · rw [if_pos hlt, find?_cons, if_neg (Ne.symm hne)]
    rw [if_neg hlt]
    by_cases heq : name = k
    · subst heq
      rw [if_pos rfl, find?_cons, if_neg (Ne.symm hne), find?_cons, if_neg (Ne.symm hne)]
    · rw [if_neg heq, find?_cons, find?_cons, ih]

theorem find?_insert (name other : String) (v : α) (l : List (String × α)) :
    find? other (insert name v l) = if other = name then some v else find? other l := by
  split
  next h => rw [h, find?_insert_self]
  next h => exact find?_insert_of_ne v l h

theorem find?_erase (name other : String) (l : List (String × α)) :
    find? other (erase name l) = if other = name then none else find? other l := by
  induction l with
  | nil => split <;> rfl
  | cons a r ih =>
    obtain ⟨k, w⟩ := a
    by_cases hk : k = name
    · have drop : erase name ((k, w) :: r) = erase name r := by simp [erase, hk]
      rw [drop, ih, find?_cons]
      by_cases ho : other = name
      · rw [if_pos ho, if_pos ho]
      · rw [if_neg ho, if_neg ho, if_neg fun h => ho (h.symm.trans hk)]
    · have keep : erase name ((k, w) :: r) = (k, w) :: erase name r := by simp [erase, hk]
      rw [keep, find?_cons, find?_cons, ih]
      by_cases ho : other = name
      · rw [if_pos ho, if_pos ho, if_neg fun h => hk (h.trans ho)]
      · rw [if_neg ho, if_neg ho]

theorem mem_of_find? {name : String} {v : α} {l : List (String × α)}
    (h : find? name l = some v) : (name, v) ∈ l := by
  obtain ⟨⟨k, w⟩, hm, hv⟩ := Option.map_eq_some_iff.1 h
  have hk : k = name := by simpa using List.find?_some hm
  cases hv
  exact hk ▸ List.mem_of_find?_eq_some hm

theorem mem_of_mem_erase {name : String} {l : List (String × α)} {m : String × α}
    (h : m ∈ erase name l) : m ∈ l :=
  (List.mem_filter.1 h).1

theorem insert_after {name : String} {v : α} {l : List (String × α)}
    (h : ∀ m ∈ l, m.1 < name) : insert name v l = l ++ [(name, v)] := by
  induction l with
  | nil => rfl
  | cons a r ih =>
    obtain ⟨k, w⟩ := a
    have hk : k < name := h (k, w) List.mem_cons_self
    have hne : name ≠ k := by
      intro he
      subst he
      exact String.lt_irrefl _ hk
    rw [insert, if_neg (String.lt_asymm hk), if_neg hne,
      ih fun m hm => h m (List.mem_cons_of_mem _ hm)]
    rfl

theorem ofList_of_sorted {l : List (String × α)} (h : Sorted l) : ofList l = l := by
  have build : ∀ (l acc : List (String × α)), Sorted (acc ++ l) →
      l.foldl (fun acc m => insert m.1 m.2 acc) acc = acc ++ l := by
    intro l
    induction l with
    | nil =>
      intro acc _
      exact (List.append_nil acc).symm
    | cons m r ih =>
      intro acc hs
      have before : ∀ a ∈ acc, a.1 < m.1 := fun a ha =>
        (List.pairwise_append.1 hs).2.2 a ha m List.mem_cons_self
      rw [List.foldl_cons, insert_after before, ih]
      · rw [List.append_assoc, List.singleton_append]
      · rwa [List.append_assoc, List.singleton_append]
  exact build l [] h

/-! ### Lists that are sorted by name -/

theorem find?_foldl_insert (name : String) (l acc : List (String × α)) :
    find? name (l.foldl (fun acc m => insert m.1 m.2 acc) acc) =
      (l.reverse.lookup name).or (find? name acc) := by
  induction l generalizing acc with
  | nil => rfl
  | cons m r ih =>
    obtain ⟨k, v⟩ := m
    rw [List.foldl_cons, ih, find?_insert, List.reverse_cons, List.lookup_append]
    by_cases same : name = k
    · subst same
      cases r.reverse.lookup name with
      | none => simp
      | some w => rfl
    · have other : (name == k) = false := beq_eq_false_iff_ne.2 same
      rw [if_neg same]
      cases r.reverse.lookup name with
      | none => simp [List.lookup_cons, other]
      | some w => rfl

/-- Sorting keeps the last value of each name. -/
theorem find?_ofList (name : String) (l : List (String × α)) :
    find? name (ofList l) = l.reverse.lookup name := by
  rw [ofList, find?_foldl_insert]
  exact Option.or_none

theorem mem_of_mem_ofList {l : List (String × α)} {m : String × α} (h : m ∈ ofList l) : m ∈ l := by
  have step : ∀ (l acc : List (String × α)), m ∈ l.foldl (fun acc m => insert m.1 m.2 acc) acc →
      m ∈ l ∨ m ∈ acc := by
    intro l
    induction l with
    | nil => exact fun acc hm => .inr hm
    | cons a r ih =>
      intro acc hm
      rcases ih _ hm with later | now
      · exact .inl (List.mem_cons_of_mem _ later)
      · rcases mem_insert_fst now with rfl | before
        · exact .inl List.mem_cons_self
        · exact .inr before
  exact (step l [] h).resolve_right List.not_mem_nil

theorem sorted_filterMap {β : Type} (g : α → Option β) {l : List (String × α)} (h : Sorted l) :
    Sorted (l.filterMap fun m => (g m.2).map fun w => (m.1, w)) := by
  refine List.Pairwise.filterMap _ ?_ h
  intro a b before a' ha b' hb
  obtain ⟨_, -, rfl⟩ := Option.map_eq_some_iff.1 ha
  obtain ⟨_, -, rfl⟩ := Option.map_eq_some_iff.1 hb
  exact before

/-! ### Members in any order -/

theorem nodup_of_sorted {l : List (String × α)} (h : Sorted l) : (l.map (·.1)).Nodup := by
  refine List.pairwise_map.2 (h.imp ?_)
  intro a b before same
  rw [same] at before
  exact String.lt_irrefl _ before

theorem sorted_erase (name : String) {l : List (String × α)} (h : Sorted l) :
    Sorted (erase name l) :=
  h.filter _

theorem find?_eq_some_iff {l : List (String × α)} (hn : (l.map (·.1)).Nodup) {name : String} {v : α} :
    find? name l = some v ↔ (name, v) ∈ l := by
  refine ⟨mem_of_find?, fun hm => ?_⟩
  induction l with
  | nil => cases hm
  | cons a r ih =>
    obtain ⟨k, w⟩ := a
    rw [List.map_cons, List.nodup_cons] at hn
    rw [find?_cons]
    rcases List.mem_cons.1 hm with he | hr
    · cases he
      rw [if_pos rfl]
    · have other : k ≠ name := fun hk => hn.1 (List.mem_map.2 ⟨(name, v), hr, hk.symm⟩)
      rw [if_neg other]
      exact ih hn.2 hr

/-- A sorted list is told by what is found in it. -/
theorem eq_of_find? {l l' : List (String × α)} (h : Sorted l) (h' : Sorted l')
    (same : ∀ name, find? name l = find? name l') : l = l' := by
  have members : ∀ m, m ∈ l ↔ m ∈ l' := by
    rintro ⟨name, v⟩
    rw [← find?_eq_some_iff (nodup_of_sorted h), ← find?_eq_some_iff (nodup_of_sorted h'), same]
  have distinct : ∀ {l : List (String × α)}, Sorted l → l.Nodup := fun h =>
    (List.pairwise_map.1 (nodup_of_sorted h)).imp fun other same => other (congrArg Prod.fst same)
  have perm : l.Perm l' := (List.perm_ext_iff_of_nodup (distinct h) (distinct h')).2 members
  refine List.Perm.eq_of_pairwise ?_ h h' perm
  intro a b _ _ before after
  exact absurd (String.lt_trans before after) (String.lt_irrefl _)

theorem find?_perm {l l' : List (String × α)} (h : l.Perm l') (hn : (l.map (·.1)).Nodup)
    (name : String) : find? name l = find? name l' := by
  have hn' : (l'.map (·.1)).Nodup := (h.map _).nodup_iff.1 hn
  refine Option.ext fun v => ?_
  rw [find?_eq_some_iff hn, find?_eq_some_iff hn']
  exact h.mem_iff

/-- If each name stands once, a look-up does not see what is dropped or changed elsewhere. -/
theorem find?_filterMap {β : Type} (g : α → Option β) {l : List (String × α)}
    (hn : (l.map (·.1)).Nodup) (name : String) :
    find? name (l.filterMap fun m => (g m.2).map fun w => (m.1, w)) = (find? name l).bind g := by
  induction l with
  | nil => rfl
  | cons m r ih =>
    obtain ⟨k, v⟩ := m
    rw [List.map_cons, List.nodup_cons] at hn
    have rest := ih hn.2
    rw [List.filterMap_cons, find?_cons]
    by_cases same : k = name
    · rw [if_pos same, Option.bind_some]
      cases hg : g v with
      | none =>
        -- The name does not come again.
        have absent : find? name r = none := by
          refine Option.eq_none_iff_forall_ne_some.2 fun w found => hn.1 ?_
          exact List.mem_map.2 ⟨(name, w), mem_of_find? found, same.symm⟩
        rw [absent] at rest
        exact rest
      | some w => simp only [Option.map_some, find?_cons, same, if_true]
    · rw [if_neg same, ← rest]
      cases g v with
      | none => rfl
      | some w => simp only [Option.map_some, find?_cons, same, if_false]

theorem erase_of_forall {name : String} {l : List (String × α)} (h : ∀ m ∈ l, m.1 ≠ name) :
    erase name l = l :=
  List.filter_eq_self.2 fun m hm => by simpa using h m hm

theorem erase_of_find?_none {name : String} {l : List (String × α)} (h : find? name l = none) :
    erase name l = l := by
  refine erase_of_forall fun m hm same => ?_
  have absent := List.find?_eq_none.1 (Option.map_eq_none_iff.1 h) m hm
  exact absent (decide_eq_true same)

theorem insert_perm (name : String) (v : α) {l : List (String × α)} (h : Sorted l) :
    (insert name v l).Perm ((name, v) :: erase name l) := by
  induction l with
  | nil => exact .refl _
  | cons a r ih =>
    obtain ⟨k, w⟩ := a
    obtain ⟨hk, hr⟩ := List.pairwise_cons.1 h
    rw [insert]
    by_cases hlt : name < k
    · -- Every name in the list comes later, so nothing is erased.
      have later : ∀ m ∈ (k, w) :: r, m.1 ≠ name := by
        intro m hm same
        rcases List.mem_cons.1 hm with rfl | hm
        · exact String.lt_irrefl _ (same ▸ hlt)
        · exact String.lt_irrefl _ (same ▸ String.lt_trans hlt (hk m hm))
      rw [if_pos hlt, erase_of_forall later]
    rw [if_neg hlt]
    by_cases heq : name = k
    · subst heq
      have others : ∀ m ∈ r, m.1 ≠ name := by
        intro m hm same
        exact String.lt_irrefl _ (same ▸ hk m hm)
      have drop : erase name ((name, w) :: r) = erase name r := by simp [erase]
      rw [if_pos rfl, drop, erase_of_forall others]
    · have keep : erase name ((k, w) :: r) = (k, w) :: erase name r := by simp [erase, Ne.symm heq]
      rw [if_neg heq, keep]
      exact ((ih hr).cons (k, w)).trans (.swap (name, v) (k, w) _)

end Casebook.Keyed
