import Casebook.Text.Parts

/-!
# Path segments

The parts of a path between slashes, and the removal of those that only point at the path itself: a
single dot stays where it is, two dots go one part up, and either at the end leaves an empty part
behind. A dot may be written as a percent sign with its digits, and nothing goes up from the name of a
drive.
-/

namespace Casebook.Net

def withDots : List Char → List Char
  | '%' :: '2' :: c :: r => if c = 'e' || c = 'E' then '.' :: withDots r else '%' :: '2' :: withDots (c :: r)
  | c :: r => c :: withDots r
  | [] => []

def isHere (segment : String) : Bool := withDots segment.toList = ['.']

def isUp (segment : String) : Bool := withDots segment.toList = ['.', '.']

/-- Whether a part names a drive: a letter with a colon or a bar. -/
def isDrive (segment : String) : Bool :=
  match segment.toList with
  | [c, mark] => c.isAlpha && (mark = ':' || mark = '|')
  | _ => false

/-- The parts above, the last one first, without the last one; a drive stays. -/
def oneUp : List String → List String
  | [] => []
  | s :: r => if isDrive s then s :: r else r

/-- Removes the dots from some parts; `above` are the parts in front of them, the last one first. -/
def removeDotsFrom (above : List String) : List String → List String
  | [] => above.reverse
  | [s] =>
    if isUp s then ("" :: oneUp above).reverse
    else if isHere s then ("" :: above).reverse
    else (s :: above).reverse
  | s :: t :: r =>
    if isUp s then removeDotsFrom (oneUp above) (t :: r)
    else if isHere s then removeDotsFrom above (t :: r)
    else removeDotsFrom (s :: above) (t :: r)

def removeDots (segments : List String) : List String := removeDotsFrom [] segments

def segments (path : String) : List String := (Text.cut '/' path).tail

end Casebook.Net
