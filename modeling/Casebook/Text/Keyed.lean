/-!
# Lists sorted by name

Association lists with their names in strictly increasing order, the order of code points. Main
statements: inserting keeps the order, and every list that is built by inserting has it.
-/

namespace Casebook.Keyed

variable {α : Type}

def Sorted (l : List (String × α)) : Prop :=
  l.Pairwise fun a b => a.1 < b.1

/-- Puts a value in its place, over a value of the same name. -/
def insert (name : String) (v : α) : List (String × α) → List (String × α)
  | [] => [(name, v)]
  | (k, w) :: r =>
    if name < k then (name, v) :: (k, w) :: r
    else if name = k then (name, v) :: r
    else (k, w) :: insert name v r

/-- Sorts by name; of several values of one name the last stays. -/
def ofList (l : List (String × α)) : List (String × α) :=
  l.foldl (fun acc m => insert m.1 m.2 acc) []

def find? (name : String) (l : List (String × α)) : Option α :=
  (l.find? fun m => m.1 = name).map (·.2)

def erase (name : String) (l : List (String × α)) : List (String × α) :=
  l.filter fun m => m.1 ≠ name

theorem mem_insert_fst {name : String} {v : α} {l : List (String × α)} {m : String × α}
    (h : m ∈ insert name v l) : m = (name, v) ∨ m ∈ l := by
  induction l with
  | nil => simpa [insert] using h
  | cons a r ih =>
    obtain ⟨k, w⟩ := a
    simp only [insert] at h
    split at h
    · simpa using h
    · split at h
      · rcases List.mem_cons.1 h with h | h
        · exact .inl h
        · exact .inr (List.mem_cons_of_mem _ h)
      · rcases List.mem_cons.1 h with h | h
        · exact .inr (h ▸ List.mem_cons_self)
        · exact (ih h).imp_right (List.mem_cons_of_mem _)

theorem sorted_nil : Sorted ([] : List (String × α)) := List.Pairwise.nil

theorem sorted_insert (name : String) (v : α) {l : List (String × α)} (h : Sorted l) :
    Sorted (insert name v l) := by
  induction l with
  | nil => exact List.pairwise_singleton _ _
  | cons a r ih =>
    obtain ⟨k, w⟩ := a
    obtain ⟨hk, hr⟩ := List.pairwise_cons.1 h
    simp only [insert]
    split
    next hlt =>
      refine List.pairwise_cons.2 ⟨fun m hm => ?_, h⟩
      rcases List.mem_cons.1 hm with rfl | hm
      · exact hlt
      · exact String.lt_trans hlt (hk m hm)
    next hlt =>
      split
      next heq => exact List.pairwise_cons.2 ⟨fun m hm => heq ▸ hk m hm, hr⟩
      next hne =>
        refine List.pairwise_cons.2 ⟨fun m hm => ?_, ih hr⟩
        rcases mem_insert_fst hm with rfl | hm
        · exact Std.lt_of_le_of_ne (Std.not_lt.1 hlt) fun e => hne e.symm
        · exact hk m hm

theorem sorted_foldl_insert (l : List (String × α)) {acc : List (String × α)} (h : Sorted acc) :
    Sorted (l.foldl (fun acc m => insert m.1 m.2 acc) acc) := by
  induction l generalizing acc with
  | nil => exact h
  | cons m r ih => exact ih (sorted_insert _ _ h)

theorem sorted_ofList (l : List (String × α)) : Sorted (ofList l) :=
  sorted_foldl_insert l sorted_nil

end Casebook.Keyed
