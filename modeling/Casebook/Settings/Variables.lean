import Casebook.Decimal.Digits
import Casebook.Log
import Casebook.Source
import Casebook.Text.Blank
import Casebook.Text.Keyed

/-!
# Variables

Settings come from named texts. A text that should be a number and is none is noted, and the setting
keeps its default.
-/

namespace Casebook.Settings

abbrev Variables := List (String × String)

def Variables.get? (vars : Variables) (name : String) : Option String :=
  Keyed.find? name vars

/-- The text of a variable without blanks around it, if anything is left. -/
def Variables.trimmed? (vars : Variables) (name : String) : Option String :=
  ((vars.get? name).map Text.trimmed).filter (· ≠ "")

/-- One thing for each source. -/
structure BySource (α : Type) where
  order : α
  payment : α
  fulfillment : α
  deriving DecidableEq, Repr

def BySource.get {α : Type} (b : BySource α) : Source → α
  | .order => b.order
  | .payment => b.payment
  | .fulfillment => b.fulfillment

end Casebook.Settings
