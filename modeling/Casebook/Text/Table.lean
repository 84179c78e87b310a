import Casebook.Text.Blank
import Casebook.Text.Hex
import Casebook.Text.Parts

/-!
# Tables of characters

Properties of characters are written down as code points in hexadecimal digits, with blanks between
them. Two numbers with a dash between them stand for everything from the one to the other. A number
with a colon behind it starts a section.
-/

namespace Casebook.Text

def words (s : String) : List (List Char) :=
  (parts isBlank s.toList).filter fun w => !w.isEmpty

def range (w : List Char) : Nat × Nat :=
  (hexNumber (w.takeWhile (· ≠ '-')), hexNumber ((parts (· = '-') w).getLastD []))

def ranges (s : String) : List (Nat × Nat) := (words s).map range

/-- Adds a word in front of sections: one with a colon makes the words that follow it, up to the next
such word, a section. -/
def addWord (w : List Char) (s : List (List Char) × List (Nat × List (List Char))) :
    List (List Char) × List (Nat × List (List Char)) :=
  if w.getLast? = some ':' then ([], (hexNumber w.dropLast, s.1) :: s.2) else (w :: s.1, s.2)

def sections (s : String) : List (Nat × List (List Char)) :=
  ((words s).foldr addWord ([], [])).2

def inRanges (table : List (Nat × Nat)) (n : Nat) : Bool :=
  table.any fun r => r.1 ≤ n && n ≤ r.2

end Casebook.Text
