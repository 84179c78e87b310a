import Casebook.Decimal.Digits
import Casebook.OpenApi.Schema

/-!
# Operations

What can be asked at a path: with which method and parameters, and which responses there are.
-/

namespace Casebook.OpenApi

inductive Place where
  | path
  | query

def Place.name : Place → String
  | .path => "path"
  | .query => "query"

structure Parameter where
  name : String
  place : Place
  required : Bool
  note : String
  shape : Shape

def Parameter.toJson (p : Parameter) : Json :=
  .object [("name", .string p.name), ("in", .string p.place.name), ("description", .string p.note),
    ("required", .bool p.required), ("schema", .object (p.shape.members false))]

inductive Content where
  | nothing
  | document (name : String)
  | plainText

def Content.members : Content → List (String × Json)
  | .nothing => []
  | .document name =>
    [("content", .object [("application/json", .object [("schema", reference name)])])]
  | .plainText => [("content", .object [("text/plain", .object [])])]

structure Reply where
  status : Nat
  note : String
  content : Content

def Reply.member (r : Reply) : String × Json :=
  (Decimal.natText r.status, .object (("description", .string r.note) :: r.content.members))

structure Operation where
  path : String
  method : String
  tag : String
  name : String
  summary : String
  note : Option String
  parameters : List Parameter
  replies : List Reply

def Operation.member (o : Operation) : String × Json :=
  let parameters := if o.parameters.isEmpty then []
    else [("parameters", Json.array (o.parameters.map Parameter.toJson))]
  (o.path, .object [(o.method, .object ([("tags", .array [.string o.tag]),
    ("summary", .string o.summary)] ++ noteMember o.note ++ [("operationId", .string o.name)] ++
    parameters ++ [("responses", .object (o.replies.map Reply.member))]))])

end Casebook.OpenApi
