import Casebook.Text.Utf8

/-!
# Request targets

The texts that name where a request goes: a path, a host, or a scheme with a host and a path. Reading
checks which characters stand where, and tells the first fault.
-/

namespace Casebook.Net

inductive UriFault where
  | empty
  | badCharacter
  | badAuthority
  | badFormat
  | schemeTooLong
  | tooLong
  deriving DecidableEq, Repr

def UriFault.message : UriFault → String
  | .empty => "empty string"
  | .badCharacter => "invalid uri character"
  | .badAuthority => "invalid authority"
  | .badFormat => "invalid format"
  | .schemeTooLong => "scheme too long"
  | .tooLong => "uri too long"

structure Uri where
  scheme : Option String
  authority : Option String
  path : String
  query : Option String
  deriving DecidableEq, Repr

namespace Uri

def maxLength : Nat := 65534

def maxScheme : Nat := 64

def inAuthority (c : Char) : Bool :=
  c.isAlphanum || c ∈ ['!', '#', '$', '&', '\'', '(', ')', '*', '+', ',', '-', '.', '/', ':', ';', '=',
    '?', '@', '[', ']', '_', '~']

def inScheme (c : Char) : Bool :=
  c.isAlphanum || c ∈ ['+', '-', '.', '~']

def inPath (c : Char) : Bool :=
  let n := c.toNat
  n = 0x21 || n = 0x22 || (0x24 ≤ n && n ≤ 0x3b) || n = 0x3d || (0x40 ≤ n && n ≤ 0x5f) ||
    (0x61 ≤ n && n ≤ 0x7e) || 0x7f ≤ n

def inQuery (c : Char) : Bool :=
  let n := c.toNat
  n = 0x21 || (0x24 ≤ n && n ≤ 0x3b) || n = 0x3d || (0x3f ≤ n && n ≤ 0x7e) || 0x7f ≤ n

/-- What is known of a host while it is read. -/
structure HostState where
  colons : Nat
  opened : Bool
  closed : Bool
  percent : Bool
  endsInAt : Bool

def maxColons : Nat := 8

def HostState.step (h : HostState) (c : Char) : Except UriFault HostState :=
  let h := { h with endsInAt := c = '@' }
  if c = ':' then
    if maxColons ≤ h.colons then .error .badAuthority else .ok { h with colons := h.colons + 1 }
  else if c = '[' then
    if h.percent || h.opened then .error .badAuthority else .ok { h with opened := true }
  else if c = ']' then
    if !h.opened || h.closed then .error .badAuthority
    else .ok { h with closed := true, colons := 0, percent := false }
  else if c = '@' then .ok { h with colons := 0, percent := false }
  else if c = '%' then .ok { h with percent := true }
  else if inAuthority c then .ok h
  else .error .badCharacter

def HostState.isDone (h : HostState) : Bool :=
  h.opened = h.closed && h.colons ≤ 1 && !h.endsInAt && !h.percent

/-- Splits off the host: it ends where the path, the query or the fragment begins. -/
def splitHost : HostState → List Char → Except UriFault (List Char × List Char)
  | h, [] => if h.isDone then .ok ([], []) else .error .badAuthority
  | h, c :: r =>
    if c = '/' || c = '?' || c = '#' then
      if h.isDone then .ok ([], c :: r) else .error .badAuthority
    else do
      let (host, rest) ← splitHost (← h.step c) r
      .ok (c :: host, rest)

def host (s : List Char) : Except UriFault (List Char × List Char) :=
  if s.isEmpty then .error .empty else splitHost ⟨0, false, false, false, false⟩ s

def readQuery : List Char → Except UriFault (List Char)
  | [] => .ok []
  | c :: r =>
    if c = '#' then .ok []
    else if inQuery c then (readQuery r).map (c :: ·)
    else .error .badCharacter

def readPath : List Char → Except UriFault (List Char × Option (List Char))
  | [] => .ok ([], none)
  | c :: r =>
    if c = '?' then (readQuery r).map fun q => ([], some q)
    else if c = '#' then .ok ([], none)
    else if inPath c then (readPath r).map fun (p, q) => (c :: p, q)
    else .error .badCharacter

/-- The scheme in front of `://` and what follows it; the mark alone has none. -/
def splitScheme (s : List Char) : Except UriFault (Option (List Char) × List Char) :=
  let scheme := s.takeWhile inScheme
  match s.dropWhile inScheme with
  | ':' :: '/' :: '/' :: r =>
    if scheme.isEmpty && r.isEmpty then .ok (none, s)
    else if maxScheme < scheme.length then .error .schemeTooLong
    else .ok (some scheme, r)
  | _ => .ok (none, s)

/-- A target with the given parts; an empty path with a host is the root. -/
def assemble (scheme authority : Option (List Char)) (path : List Char)
    (query : Option (List Char)) : Uri :=
  { scheme := scheme.map String.ofList
    authority := authority.map String.ofList
    path := if path.isEmpty && scheme.isSome then "/" else String.ofList path
    query := query.map String.ofList }

def readFull (s : List Char) : Except UriFault Uri := do
  let (scheme, r) ← splitScheme s
  let (authority, r) ← host r
  match scheme with
  | none => if r.isEmpty then .ok (assemble none (some authority) [] none) else .error .badFormat
  | some _ =>
    if authority.isEmpty then .error .badFormat
    else
      let (path, query) ← readPath r
      .ok (assemble scheme (some authority) path query)

def read (s : String) : Except UriFault Uri :=
  if maxLength < s.utf8ByteSize then .error .tooLong
  else
    match s.toList with
    | [] => .error .empty
    | ['*'] => .ok (assemble none none ['*'] none)
    | ['?'] => .error .badCharacter
    | ['#'] => .error .badCharacter
    | '/' :: r => do
      let (path, query) ← readPath ('/' :: r)
      .ok (assemble none none path query)
    | cs => readFull cs

def target (u : Uri) : String :=
  (if u.path.isEmpty then "/" else u.path) ++ (u.query.map ("?" ++ ·)).getD ""

def text (u : Uri) : String :=
  (u.scheme.map (· ++ "://")).getD "" ++ u.authority.getD "" ++ u.target

end Uri
end Casebook.Net
