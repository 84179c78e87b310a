/-!
# Sources

The three systems that events come from, in their order of precedence, and sets of them.
-/

namespace Casebook

inductive Source where
  | order
  | payment
  | fulfillment
  deriving DecidableEq, Repr

namespace Source

/-- All sources in their order of precedence. -/
def all : List Source := [.order, .payment, .fulfillment]

def rank : Source → Nat
  | .order => 0
  | .payment => 1
  | .fulfillment => 2

def label : Source → String
  | .order => "order"
  | .payment => "payment"
  | .fulfillment => "fulfillment"

def name : Source → String
  | .order => "ORDER"
  | .payment => "PAYMENT"
  | .fulfillment => "FULFILLMENT"

def title : Source → String
  | .order => "Order"
  | .payment => "Payment"
  | .fulfillment => "Fulfillment"

instance : LE Source := ⟨fun a b => a.rank ≤ b.rank⟩
instance (a b : Source) : Decidable (a ≤ b) := inferInstanceAs (Decidable (a.rank ≤ b.rank))

theorem mem_all (s : Source) : s ∈ all := by cases s <;> decide

theorem rank_injective {a b : Source} (h : a.rank = b.rank) : a = b := by
  cases a <;> cases b <;> simp_all [rank]

end Source

/-- A set of sources: its members in their order of precedence. -/
structure SourceSet where
  members : List Source
  isOrdered : Source.all.filter (· ∈ members) = members
  deriving DecidableEq

namespace SourceSet

def ofList (l : List Source) : SourceSet :=
  ⟨Source.all.filter (· ∈ l), by
    apply List.filter_congr
    intro s _
    simp [Source.mem_all]⟩

def empty : SourceSet := ⟨[], rfl⟩

instance : Membership Source SourceSet := ⟨fun t s => s ∈ t.members⟩
instance (s : Source) (t : SourceSet) : Decidable (s ∈ t) :=
  inferInstanceAs (Decidable (s ∈ t.members))

def isEmpty (t : SourceSet) : Bool := t.members.isEmpty

@[simp] theorem mem_ofList {s : Source} {l : List Source} : s ∈ ofList l ↔ s ∈ l := by
  change s ∈ Source.all.filter (· ∈ l) ↔ s ∈ l
  simp [Source.mem_all]

end SourceSet
end Casebook
