import Casebook.Feed.Fetch

/-!
# Fetching in time

What a source does on its connections takes time, and a client waits no longer than until a deadline.
What has not come by then never comes: a late head is a silence, and a late body has stalled.
-/

namespace Casebook.Feed

/-- A response: its status, where it refers to, and a body that may break off. -/
structure Response where
  status : Nat
  location : Option String
  body : Bytes
  isCut : Bool

/-- What can be done over a connection. -/
inductive Link where
  | refused
  /-- A host is there, but it does not secure connections or does not prove its name. -/
  | plain
  | secured
  deriving DecidableEq, Repr

/-- What happens on one connection. Waits are in milliseconds; one that is not given does not end. -/
structure Exchange where
  /-- Until it is known whether the connection stands, and whether it is secured if it has to be. -/
  connect : Option Nat
  link : Link
  /-- From then until the head of a response comes, or what is no response. -/
  head : Option Nat
  response : Option Response
  /-- From then until the body is there, or breaks off; without a body, until the connection ends. -/
  rest : Option Nat

namespace Exchange

/-- When it is known whether the connection stands. One that takes until `cap` is given up. -/
def connectAt (cap : Nat) (x : Exchange) : Option Nat := x.connect.filter (· < cap)

/-- When a head comes. -/
def headAt (cap : Nat) (x : Exchange) : Option Nat :=
  (x.connectAt cap).bind fun c => x.head.map (c + ·)

def endAt (cap : Nat) (x : Exchange) : Option Nat :=
  (x.headAt cap).bind fun h => x.rest.map (h + ·)

end Exchange

def isBefore (limit : Nat) (t : Option Nat) : Bool := t.any (· < limit)

namespace Exchange

/-- How the body of a response arrives for a client that has this much time left. -/
def arrival (cap left : Nat) (x : Exchange) (p : Response) : Arrival :=
  if !isBefore left (x.endAt cap) then .stalled else if p.isCut then .broken else .whole

/-- What a client sees that has this much time left. -/
def reply (cap left : Nat) (x : Exchange) : Reply :=
  if !isBefore left (x.connectAt cap) then .pending
  else if x.link = .refused then .refused
  else if isBefore left (x.headAt cap) then
    match x.response with
    | none => .nonsense
    | some p => .response p.status p.location (x.arrival cap left p) p.body
  else .silence

def seen (cap left : Nat) (x : Exchange) : Contact := ⟨x.link = .secured, x.reply cap left⟩

end Exchange

/-- The exchanges after the first one; the last one happens again and again. -/
def later (x : Exchange) : List Exchange → List Exchange
  | [] => [x]
  | xs => xs

/-- What a client sees on so many connections, each of them asked for when the head of the one before has
come. -/
def seenOn (cap : Nat) : Nat → Nat → List Exchange → Replies
  | 0, _, _ => []
  | _ + 1, _, [] => []
  | connections + 1, left, x :: xs =>
    x.seen cap left :: seenOn cap connections (left - (x.headAt cap).getD left) (later x xs)

/-- Asks a source for the events of a case, and waits for `deadline` milliseconds. -/
def fetchBy (e : Endpoint) (cap : Nat) (c : CaseId) (deadline : Nat) (xs : List Exchange) : Visit :=
  fetch e c (deadline = 0) (seenOn cap (maxRedirects + 1) deadline xs)

end Casebook.Feed
