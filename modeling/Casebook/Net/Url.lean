import Casebook.Net.Host
import Casebook.Net.Segments
import Casebook.Net.Uri

/-!
# Web addresses

Texts that people write as the address of something on the web, read generously: blanks around them and
line breaks in them do not count, a backslash is a slash, and characters that may not stand in a request
target are written with percent signs. An address may be given relative to another one, without its
scheme, its host or the first parts of its path.
-/

namespace Casebook.Net

structure Url where
  scheme : String
  /-- The host, perhaps behind a user and before a port. -/
  authority : Option String
  path : String
  query : Option String
  fragment : Option String
  deriving DecidableEq, Repr

namespace Url

def text (u : Url) : String :=
  let part (mark : String) (p : Option String) := (p.map (mark ++ ·)).getD ""
  u.scheme ++ ":" ++ part "//" u.authority ++ u.path ++ part "?" u.query ++ part "#" u.fragment

inductive Family where
  /-- With a host, and a port that is left out if it is this one. -/
  | web (port : Nat)
  /-- With a path on some machine. -/
  | file
  | other
  deriving DecidableEq, Repr

def Family.of (scheme : String) : Family :=
  if scheme = "http" || scheme = "ws" then .web 80
  else if scheme = "https" || scheme = "wss" then .web 443
  else if scheme = "ftp" then .web 21
  else if scheme = "file" then .file
  else .other

def Family.isSlash (f : Family) (c : Char) : Bool := c = '/' || (c = '\\' && f ≠ .other)

def Family.endsHost (f : Family) (c : Char) : Bool := f.isSlash c || c = '?' || c = '#'

def isSpecialInFragment (c : Char) : Bool := c ∈ [' ', '"', '<', '>', '\x60']

def isSpecialInPath (c : Char) : Bool := isSpecialInFragment c || c ∈ ['#', '?', '\x7b', '\x7d']

def isSpecialInUser (c : Char) : Bool :=
  isSpecialInPath c || c ∈ ['/', ':', ';', '=', '@', '[', '\\', ']', '^', '|']

def Family.isSpecialInQuery (f : Family) (c : Char) : Bool :=
  c ∈ [' ', '"', '#', '<', '>'] || (c = '\'' && f ≠ .other)

def encoded (isSpecial : Char → Bool) (s : List Char) : String :=
  String.ofList (Text.percentEncode isSpecial s)

/-- The text without control characters and spaces around it and without tabs and line breaks. -/
def cleaned (s : List Char) : List Char :=
  let isEdge (c : Char) : Bool := c.toNat ≤ 32
  ((s.dropWhile isEdge).reverse.dropWhile isEdge).reverse.filter fun c =>
    c ≠ '\t' && c ≠ '\n' && c ≠ '\r'

def splitScheme? (s : List Char) : Option (String × List Char) :=
  let isPart (c : Char) : Bool := c.isAlphanum || c = '+' || c = '-' || c = '.'
  match s.dropWhile isPart with
  | ':' :: r =>
    if s.head?.any Char.isAlpha then some (String.ofList ((s.takeWhile isPart).map Char.toLower), r)
    else none
  | _ => none

def afterLast (c : Char) (s : List Char) : List Char :=
  (s.reverse.takeWhile (· ≠ c)).reverse

def splitAt (mark : Char) (s : List Char) : List Char × Option (List Char) :=
  (s.takeWhile (· ≠ mark), if s.contains mark then some (s.dropWhile (· ≠ mark)).tail else none)

def userText (s : List Char) : String :=
  let (name, password) := splitAt ':' s
  let password := password.getD []
  if name.isEmpty && password.isEmpty then ""
  else
    encoded isSpecialInUser name ++
      (if password.isEmpty then "" else ":" ++ encoded isSpecialInUser password) ++ "@"

/-- The host in front of the port; a colon in brackets does not end it. -/
def splitHost : Bool → List Char → List Char × List Char
  | _, [] => ([], [])
  | inBrackets, c :: r =>
    if c = ':' && !inBrackets then ([], c :: r)
    else
      let (host, rest) := splitHost (c = '[' || (inBrackets && c ≠ ']')) r
      (c :: host, rest)

def Family.portText? (f : Family) (s : List Char) : Option String :=
  let digits := s.tail
  if !digits.all Decimal.isDigit || Decimal.max16 < Decimal.value digits then none
  else if digits.isEmpty || f = .web (Decimal.value digits) then some ""
  else some (":" ++ Decimal.natText (Decimal.value digits))

def Family.authority? (f : Family) (s : List Char) : Option String := do
  let place := afterLast '@' s
  let user := s.take (s.length - place.length - 1)
  let (host, port) := splitHost false place
  let hostText ← if f = .other then Host.other? host else Host.web? host
  let portText ← f.portText? port
  if f = .other && host.isEmpty && (place.length < s.length || !port.isEmpty) then none
  else some (userText user ++ hostText ++ portText)

/-- A path behind its first slash, encoded and without dots; `above` are the parts in front of it, the
last one first. -/
def Family.pathText (f : Family) (above : List String) (s : List Char) : String :=
  let parts := (Text.parts f.isSlash s).map (encoded isSpecialInPath)
  "/" ++ "/".intercalate (removeDotsFrom above parts)

structure Rest where
  path : List Char
  query : Option (List Char)
  fragment : Option (List Char)

def Rest.of (s : List Char) : Rest :=
  let (front, fragment) := splitAt '#' s
  let (path, query) := splitAt '?' front
  ⟨path, query, fragment⟩

def Rest.url (rest : Rest) (scheme : String) (authority : Option String) (path : String) : Url :=
  ⟨scheme, authority, path, rest.query.map (encoded (Family.of scheme).isSpecialInQuery),
    rest.fragment.map (encoded isSpecialInFragment)⟩

/-- Reads what follows the slashes in front of the host. -/
def ofAuthority? (scheme : String) (s : List Char) : Option Url := do
  let f := Family.of scheme
  let authority ← f.authority? (s.takeWhile fun c => !f.endsHost c)
  let rest := Rest.of (s.dropWhile fun c => !f.endsHost c)
  let path := if f = .other && rest.path.isEmpty then "" else f.pathText [] rest.path.tail
  some (rest.url scheme (some authority) path)

/-- Reads what follows the scheme of a file: it is on this machine unless another host is named. -/
def ofFile? (s : List Char) : Option Url := do
  let f := Family.file
  let slashes := (s.take 2).takeWhile f.isSlash
  let s := s.drop slashes.length
  let host := s.takeWhile fun c => !f.endsHost c
  if slashes.length = 2 && !host.isEmpty && !isDrive (String.ofList host) then
    let text ← Host.web? host
    let rest := Rest.of (s.drop host.length)
    some (rest.url "file" (some (if text = "localhost" then "" else text))
      (f.pathText [] rest.path.tail))
  else
    let rest := Rest.of s
    some (rest.url "file" (some "") (f.pathText [] rest.path))

def ofOther? (scheme : String) (s : List Char) : Option Url :=
  match s with
  | '/' :: '/' :: r => ofAuthority? scheme r
  | '/' :: r =>
    let rest := Rest.of r
    some (rest.url scheme none (Family.other.pathText [] rest.path))
  | _ =>
    let rest := Rest.of s
    some (rest.url scheme none (encoded (fun _ => false) rest.path))

/-- Reads an address relative to another one of the web. -/
def relative? (base : Url) (s : List Char) : Option Url :=
  let f := Family.of base.scheme
  let rest := Rest.of s
  let slashes := rest.path.takeWhile f.isSlash
  match slashes with
  | [] =>
    if rest.path.isEmpty then
      let u := rest.url base.scheme base.authority base.path
      some (if rest.query.isSome then u else { u with query := base.query })
    else
      let above := (segments base.path).dropLast.reverse
      some (rest.url base.scheme base.authority (f.pathText above rest.path))
  | [_] => some (rest.url base.scheme base.authority (f.pathText [] rest.path.tail))
  | '/' :: '/' :: _ => ofAuthority? base.scheme (s.drop 2)
  | _ => ofAuthority? base.scheme (s.drop slashes.length)

def read? (base : Option Url) (raw : String) : Option Url :=
  let s := cleaned raw.toList
  match splitScheme? s with
  | none => base.bind fun b => relative? b s
  | some (scheme, r) =>
    match Family.of scheme with
    | .file => ofFile? r
    | .other => ofOther? scheme r
    | .web port =>
      let slashes := r.takeWhile (Family.web port).isSlash
      match base.filter fun b => b.scheme = scheme && slashes.length < 2 with
      | some b => relative? b r
      | none => ofAuthority? scheme (r.drop slashes.length)

def uri? (u : Url) : Option Uri := (Uri.read u.text).toOption

end Url

namespace Uri

def ofAddress? (raw : String) : Option Uri := (Url.read? none raw).bind Url.uri?

def refer? (base : Uri) (raw : String) : Option Uri := do
  let b ← Url.read? none base.text
  (Url.read? (some b) raw).bind Url.uri?

end Uri
end Casebook.Net
