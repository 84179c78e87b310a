import Casebook.Cache.Mapped
import Casebook.Text.Blank
import Casebook.Text.Parts
import Casebook.Text.Substitute

/-!
# Cache locations

The text that says where the cache is: in memory, or in a directory that holds a memory map. A
directory is made where it is missing, which fails where a file stands in the way.
-/

namespace Casebook.Cache

inductive Location where
  | memory
  | directory (path : String)
  deriving DecidableEq, Repr

namespace Location

def backend : Location → String
  | .memory => memoryName
  | .directory _ => mappedName

/-- Reads a location between blanks. -/
def parse (url : String) : Except CacheFault Location :=
  let s := Text.trim url.toList
  match Text.after? "memory://".toList s, Text.after? "lmdb://".toList s with
  | some [], _ => .ok .memory
  | none, some ('/' :: c :: r) => .ok (.directory (String.ofList ('/' :: c :: r)))
  | _, _ => .error (.unsupported url)

def parts (path : String) : List String :=
  (Text.cut '/' path).filter fun p => p ≠ "" && p ≠ "."

/-- The files that stand where a directory could be wanted: those that every machine has. -/
def knownFiles : List (List String) :=
  (["null", "zero", "full", "random", "urandom", "tty"].map fun name => ["dev", name]) ++
    ["passwd", "hosts", "hostname"].map fun name => ["etc", name]

/-- The directory in which nothing can be made. -/
def closedDirectory : String := "proc"

inductive Obstacle where
  | fileThere
  | fileAbove
  | closed
  deriving DecidableEq, Repr

def Obstacle.message : Obstacle → String
  | .fileThere => "File exists (os error 17)"
  | .fileAbove => "Not a directory (os error 20)"
  | .closed => "No such file or directory (os error 2)"

def obstacle? (path : String) : Option Obstacle :=
  let ps := parts path
  if ps ∈ knownFiles then some .fileThere
  else if knownFiles.any fun f => f.isPrefixOf ps then some .fileAbove
  else if ps.head? = some closedDirectory && 1 < ps.length then some .closed
  else none

def open? : Location → Except CacheFault Unit
  | .memory => .ok ()
  | .directory path =>
    match obstacle? path with
    | none => .ok ()
    | some o => .error (.unavailable mappedName (.other s!"I/O error: {o.message}"))

end Location
end Casebook.Cache
