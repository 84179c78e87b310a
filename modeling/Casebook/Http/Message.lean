import Casebook.Decimal.Digits
import Casebook.Json.Printer
import Casebook.Text.Utf8

/-!
# Messages

Requests and responses. The values of the headers of a request may be any bytes. The length of a body is
announced before the body of an answer to `HEAD` is dropped.
-/

namespace Casebook.Http

/-- Whether a text may be the value of a header. -/
def isHeaderValue (s : String) : Bool :=
  s.toList.all fun c => c = '\t' || (32 ≤ c.toNat && c.toNat ≠ 127)

structure Request where
  method : String
  path : String
  query : Option String
  headers : List (String × Bytes)

/-- The value of the first header of a name; the case of the name does not matter. -/
def Request.header? (r : Request) (name : String) : Option Bytes :=
  (r.headers.find? fun h => String.ofList (h.1.toList.map Char.toLower) = name).map (·.2)

structure Response where
  status : Nat
  headers : List (String × String)
  body : String
  deriving DecidableEq, Repr

namespace Response

def bare (status : Nat) : Response := ⟨status, [], ""⟩

def ofText (status : Nat) (contentType body : String) : Response :=
  ⟨status, [("content-type", contentType)], body⟩

def ofJson (status : Nat) (j : Json) : Response := ofText status "application/json" j.text

def ofMessage (status : Nat) (message : String) : Response :=
  ofText status "text/plain; charset=utf-8" message

def withHeader (r : Response) (name value : String) : Response :=
  { r with headers := r.headers ++ [(name, value)] }

def withLength (r : Response) : Response :=
  r.withHeader "content-length" (Decimal.natText r.body.utf8ByteSize)

def withoutBody (r : Response) : Response := { r with body := "" }

end Response
end Casebook.Http
