/-!
# Substitution

Every occurrence of a mark in a text gives way to another text. Occurrences are taken from the front
and do not overlap; what is put in is not looked at again.
-/

namespace Casebook.Text

def after? : List Char → List Char → Option (List Char)
  | [], s => some s
  | _ :: _, [] => none
  | c :: m, d :: s => if c = d then after? m s else none

/-- Puts `value` in the place of every `mark`; `skip` characters belong to a mark already replaced. -/
def substituteFrom (mark value : List Char) : Nat → List Char → List Char
  | _, [] => []
  | n + 1, _ :: s => substituteFrom mark value n s
  | 0, c :: s =>
    match after? mark (c :: s) with
    | some _ => value ++ substituteFrom mark value (mark.length - 1) s
    | none => c :: substituteFrom mark value 0 s

def substitute (mark value s : List Char) : List Char :=
  substituteFrom mark value 0 s

def occursIn (mark : List Char) : List Char → Bool
  | [] => mark.isEmpty
  | c :: s => (after? mark (c :: s)).isSome || occursIn mark s

def dropTrailing (c : Char) (s : List Char) : List Char :=
  (s.reverse.dropWhile (· = c)).reverse

end Casebook.Text
