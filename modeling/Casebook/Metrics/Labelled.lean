/-!
# Values by label

Association lists in which every label stands at most once. A label that was never used has the fresh
value; using it puts it on the list, also where the value stays fresh. Main statement: an update
changes the value of its label and of no other.
-/

namespace Casebook.Metrics

variable {κ α : Type} [DecidableEq κ]

structure Labelled (κ α : Type) where
  entries : List (κ × α)
  deriving DecidableEq

namespace Labelled

def empty : Labelled κ α := ⟨[]⟩

def labels (l : Labelled κ α) : List κ := l.entries.map (·.1)

def look (fresh : α) (k : κ) : List (κ × α) → α
  | [] => fresh
  | e :: r => if e.1 = k then e.2 else look fresh k r

def alter (fresh : α) (f : α → α) (k : κ) : List (κ × α) → List (κ × α)
  | [] => [(k, f fresh)]
  | e :: r => if e.1 = k then (k, f e.2) :: r else e :: alter fresh f k r

def value (l : Labelled κ α) (fresh : α) (k : κ) : α := look fresh k l.entries

def update (l : Labelled κ α) (fresh : α) (k : κ) (f : α → α) : Labelled κ α :=
  ⟨alter fresh f k l.entries⟩

/-- Uses a label and leaves its value. -/
def touch (l : Labelled κ α) (fresh : α) (k : κ) : Labelled κ α := l.update fresh k id

theorem look_alter (fresh : α) (f : α → α) (k k' : κ) (l : List (κ × α)) :
    look fresh k' (alter fresh f k l) = if k' = k then f (look fresh k l) else look fresh k' l := by
  induction l with
  | nil => grind [alter, look]
  | cons e r ih => grind [alter, look]

@[simp] theorem value_update (l : Labelled κ α) (fresh : α) (k k' : κ) (f : α → α) :
    (l.update fresh k f).value fresh k' =
      if k' = k then f (l.value fresh k) else l.value fresh k' :=
  look_alter fresh f k k' l.entries

theorem mem_alter_fst {fresh : α} {f : α → α} {k k' : κ} {l : List (κ × α)} :
    k' ∈ (alter fresh f k l).map (·.1) ↔ k' = k ∨ k' ∈ l.map (·.1) := by
  induction l with
  | nil => simp [alter]
  | cons e r ih =>
    by_cases he : e.1 = k <;> grind [alter]

end Labelled
end Casebook.Metrics
