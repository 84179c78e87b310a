import Casebook.Net.Domain.Mapping
import Casebook.Net.Punycode
import Casebook.Text.Composition
import Casebook.Text.Direction
import Casebook.Text.Joining

/-!
# Domain names

Labels with points between them. Names are read in the letters of any script: capital and styled letters
count as plain ones, and a label that is written in ASCII for letters of another script is read as those
letters.
-/

namespace Casebook.Net.Domain

open Text (composed isCombining isReadable joinersFit parts turns)

/-- Whether a character stands in no name, although nothing takes its place. -/
def isForbidden (c : Char) : Bool :=
  c.toNat ≤ 32 || c.toNat = 127 ||
    c ∈ ['%', '#', '/', ':', '<', '>', '?', '@', '[', '\\', ']', '^', '|']

/-- What a label begins with that is written in ASCII for letters of another script. -/
def writtenMark : List Char := ['x', 'n', '-', '-']

def longestWritten : Nat := 2000

def longestForeign : Nat := 1000

/-- Whether the letters of a written label could have been given as they are: some are beyond ASCII,
nothing takes the place of any, and they are in composed form. -/
def isPlain (label : List Char) : Bool :=
  label.any (fun c => !Punycode.isAscii c) && label.all (fun c => image? c = some [c]) &&
    composed label = label

def letters? (label : List Char) : Option (List Char) :=
  if label.take writtenMark.length = writtenMark then
    let written := label.drop writtenMark.length
    if longestWritten < written.length then none
    else (Punycode.decode? written).filter isPlain
  else some label

def isUsable (label : List Char) : Bool :=
  !(label.head?.any isCombining) && label.all (fun c => !isForbidden c) && joinersFit [] label

def labels? (name : List Char) : Option (List (List Char)) := do
  let images ← name.mapM image?
  let labels ← (parts (· = '.') (composed images.flatten)).mapM letters?
  if labels.all isUsable && (labels.all isReadable || !(labels.any fun l => l.any turns)) then
    some labels
  else none

def writtenLabel? (label : List Char) : Option (List Char) :=
  if label.all Punycode.isAscii then some label
  else if longestForeign < label.length then none
  else some (writtenMark ++ Punycode.encode label)

def ascii? (name : List Char) : Option (List Char) := do
  let labels ← labels? name
  let written ← labels.mapM writtenLabel?
  some (['.'].intercalate written)

end Casebook.Net.Domain
