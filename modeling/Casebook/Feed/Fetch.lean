import Casebook.Feed.Decode
import Casebook.Feed.Endpoint
import Casebook.Http.Message
import Casebook.Net.Url
import Casebook.Outcome

/-!
# Fetching

Asking a source for the events of a case over the web: one request, and one more for each redirect that
is followed. A request is sent once there is a connection for it, which has to be a secured one if the
address asks for that. What the source answered, or how it failed to, becomes an outcome.
-/

namespace Casebook.Feed

open Http (isHeaderValue)

/-- How the body of a response arrives. -/
inductive Arrival where
  | whole
  /-- It ends before its announced length. -/
  | broken
  /-- It stops and does not go on. -/
  | stalled
  deriving DecidableEq, Repr

inductive Reply where
  /-- There is no connection yet when a client no longer waits for it. -/
  | pending
  /-- There is no connection, nor will there be one. -/
  | refused
  /-- Sends nothing that is a response, and closes. -/
  | nonsense
  /-- Sends nothing and keeps the connection open. -/
  | silence
  | response (status : Nat) (location : Option String) (arrival : Arrival) (body : Bytes)

/-- A connection that is asked for, and what comes of it. -/
structure Contact where
  /-- Whether it can be secured, by a host that proves its name. -/
  isSecured : Bool
  reply : Reply

/-- The connections that are asked for, one after the other; the last one is had again and again. None at
all means that connections are refused. -/
abbrev Replies := List Contact

def Replies.next : Replies → Replies
  | a :: b :: r => let _ := a; b :: r
  | rs => rs

/-- Whether the web can be asked for a target, openly or over a secured connection. -/
def isOnWeb (u : Net.Uri) : Bool :=
  (u.scheme = some "http" || u.scheme = some "https") && u.authority.isSome

def mustBeSecured (u : Net.Uri) : Bool := u.scheme = some "https"

/-- What comes of a connection for a target. -/
def Contact.replyFor (u : Net.Uri) (c : Contact) : Reply :=
  match c.reply with
  | .pending => .pending
  | reply => if mustBeSecured u && !c.isSecured then .refused else reply

def Replies.first (u : Net.Uri) (rs : Replies) : Reply :=
  (rs.head?.map (Contact.replyFor u)).getD .refused

def agent : String := "timeline-sources/0.1.0"

def maxRedirects : Nat := 10

/-- The least and the greatest number that can be a status. -/
def isStatus (n : Nat) : Bool := 100 ≤ n && n ≤ 999

def isInterim (status : Nat) : Bool := 100 ≤ status && status < 200 && status ≠ 101

def isGood (status : Nat) : Bool := 200 ≤ status && status < 300

/-- Whether a response with this status has no body, whatever it sends. -/
def isBodiless (status : Nat) : Bool := status = 204 || status = 304

def isRedirect (status : Nat) : Bool := status ∈ [301, 302, 303, 307, 308]

def ofBody (source : Source) (body : Bytes) : Outcome :=
  match decode source body with
  | .ok events => .success events
  | .error _ => .undecodable

/-- The outcome of a response that is not a redirect to follow. -/
def ofResponse (source : Source) (status : Nat) (arrival : Arrival) (body : Bytes) : Outcome :=
  if !isGood status then .failed (some status)
  else if isBodiless status then ofBody source []
  else
    match arrival with
    | .whole => ofBody source body
    | .broken => .failed (some status)
    | .stalled => .timeout

def headerValue (s : String) : String :=
  let isGap (c : Char) : Bool := c = ' ' || c = '\t'
  String.ofList ((s.toList.dropWhile isGap).reverse.dropWhile isGap).reverse

def redirect? (base : Net.Uri) (status : Nat) (location : Option String) : Option Net.Uri :=
  if isRedirect status then location.bind fun l => base.refer? (headerValue l) else none

/-- What came of asking: an outcome, and the targets of the requests that were sent. -/
structure Visit where
  outcome : Outcome
  targets : List String
  deriving DecidableEq

def Visit.after (target : String) (v : Visit) : Visit := { v with targets := target :: v.targets }

/-- Sends a request, if there is a connection for it, and follows at most `left` redirects from it. -/
def visit (source : Source) (left : Nat) (u : Net.Uri) (replies : Replies) : Visit :=
  match replies.first u with
  | .pending => ⟨.timeout, []⟩
  | .refused => ⟨.failed none, []⟩
  | .nonsense => ⟨.failed none, [u.target]⟩
  | .silence => ⟨.timeout, [u.target]⟩
  | .response status location arrival body =>
    if !isStatus status || !location.all isHeaderValue then ⟨.failed none, [u.target]⟩
    else if isInterim status then
      ⟨if arrival = .stalled then .timeout else .failed none, [u.target]⟩
    else
      match redirect? u status location, left with
      | none, _ => ⟨ofResponse source status arrival body, [u.target]⟩
      | some _, 0 => ⟨.failed none, [u.target]⟩
      | some next, left + 1 =>
        if isOnWeb next then (visit source left next replies.next).after u.target
        else ⟨.failed none, [u.target]⟩

/-- Asks a source for the events of a case. Once the deadline has passed nothing is sent. -/
def fetch (e : Endpoint) (c : CaseId) (isLate : Bool) (replies : Replies) : Visit :=
  if isLate then ⟨.timeout, []⟩
  else
    match Net.Uri.ofAddress? (e.urlFor c) with
    | none => ⟨.failed none, []⟩
    | some u => if isOnWeb u then visit e.source maxRedirects u replies else ⟨.failed none, []⟩

end Casebook.Feed
