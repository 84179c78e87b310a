import Casebook.Proofs.Cache.Store

/-!
# Stores in memory

A store that keeps its values in memory, whether or not it refuses calls: each call is refused, or it
is answered by the memory store inside and changes that store alone.
-/

namespace Casebook.Cache

namespace Memory

variable (m : Memory) (now : Clock) (key other : String)

/-- Asking for a value takes away only a value whose deadline has come. -/
theorem find?_get : Keyed.find? other (m.get now key).2.values =
    if other = key ∧ m.live? now key = none then none else Keyed.find? other m.values := by
  rw [get]
  split
  next b live =>
    rw [if_neg fun h => Option.some_ne_none b (live.symm.trans h.2)]
  next dead =>
    rw [Keyed.find?_erase]
    simp only [dead, and_true]

theorem find?_set (b : Bytes) (ttl : Span) : Keyed.find? other (m.set now key b ttl).values =
    if other = key then some ⟨b, now.deadline ttl⟩ else Keyed.find? other m.values :=
  Keyed.find?_insert key other _ m.values

theorem find?_delete : Keyed.find? other (m.delete key).2.values =
    if other = key then none else Keyed.find? other m.values :=
  Keyed.find?_erase key other m.values

end Memory

namespace Store

def inside? : Store → Option Memory
  | .memory m => some m
  | .refusing _ m => some m
  | _ => none

def refuses : Store → Call → Bool
  | .refusing r _, call => call ∈ r
  | _, _ => false

variable {s : Store} {m : Memory}

theorem values_of_isEmpty (h : s.inside? = some m) (empty : s.IsEmpty) : m.values = [] := by
  cases s with
  | memory m' =>
    cases h
    exact empty
  | mapped m' => cases h
  | unreachable n => cases h
  | refusing r m' =>
    cases h
    exact empty

theorem get_inside (h : s.inside? = some m) (now : Clock) (key : String) :
    (s.get now key).1 =
        (if s.refuses .get then .error (refusal .get) else .ok (m.live? now key)) ∧
      (s.get now key).2.inside? = some (if s.refuses .get then m else (m.get now key).2) := by
  cases s with
  | memory m' =>
    cases h
    exact ⟨congrArg Except.ok (m.get_fst now key), rfl⟩
  | mapped m' => cases h
  | unreachable n => cases h
  | refusing r m' =>
    cases h
    simp only [get, refuses, decide_eq_true_eq]
    split
    next => exact ⟨rfl, rfl⟩
    next => exact ⟨congrArg Except.ok (m.get_fst now key), rfl⟩

theorem set_inside (h : s.inside? = some m) (now : Clock) (key : String) (b : Bytes) (ttl : Span) :
    (s.set now key b ttl).1 = (if s.refuses .set then .error (refusal .set) else .ok ()) ∧
      (s.set now key b ttl).2.inside? =
        some (if s.refuses .set then m else m.set now key b ttl) := by
  cases s with
  | memory m' =>
    cases h
    exact ⟨rfl, rfl⟩
  | mapped m' => cases h
  | unreachable n => cases h
  | refusing r m' =>
    cases h
    simp only [set, refuses, decide_eq_true_eq]
    split <;> exact ⟨rfl, rfl⟩

theorem delete_inside (h : s.inside? = some m) (key : String) :
    (s.delete key).1 =
        (if s.refuses .delete then .error (refusal .delete) else .ok (m.delete key).1) ∧
      (s.delete key).2.inside? = some (if s.refuses .delete then m else (m.delete key).2) := by
  cases s with
  | memory m' =>
    cases h
    exact ⟨rfl, rfl⟩
  | mapped m' => cases h
  | unreachable n => cases h
  | refusing r m' =>
    cases h
    simp only [delete, refuses, decide_eq_true_eq]
    split <;> exact ⟨rfl, rfl⟩

theorem setRefused_inside (h : s.inside? = some m) (refused : List Call) :
    (s.setRefused refused).inside? = some m := by
  cases s with
  | memory m' => exact h
  | mapped m' => cases h
  | unreachable n => cases h
  | refusing r m' => exact h

end Store
end Casebook.Cache
