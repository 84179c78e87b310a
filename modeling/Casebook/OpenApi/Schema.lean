import Casebook.Json.Basic

/-!
# Schemas

The shapes of the values that requests and responses hold, and their descriptions in the schema
vocabulary of interface descriptions.
-/

namespace Casebook.OpenApi

inductive Shape where
  | text
  | date
  | boolean
  | natural
  | real
  /-- Any object. -/
  | anything
  /-- An object whose members are texts. -/
  | texts
  | named (name : String)
  | list (items : Shape)
  /-- A list without repetitions. -/
  | set (items : Shape)

def reference (name : String) : Json :=
  .object [("$ref", .string ("#/components/schemas/" ++ name))]

/-- A type that a value may have, perhaps beside null. -/
def typeMember (nullable : Bool) (type : String) : String × Json :=
  ("type", if nullable then .array [.string type, .string "null"] else .string type)

def Shape.members (nullable : Bool) : Shape → List (String × Json)
  | .text => [typeMember nullable "string"]
  | .date => [typeMember nullable "string", ("format", .string "date-time")]
  | .boolean => [typeMember nullable "boolean"]
  | .natural => [typeMember nullable "integer", ("format", .string "int64"), ("minimum", .int 0)]
  | .real => [typeMember nullable "number", ("format", .string "double")]
  | .anything => [typeMember nullable "object"]
  | .texts =>
    [typeMember nullable "object", ("additionalProperties", .object [typeMember false "string"]),
      ("propertyNames", .object [typeMember false "string"])]
  | .named name =>
    if nullable then [("oneOf", .array [.object [typeMember false "null"], reference name])]
    else [("$ref", .string ("#/components/schemas/" ++ name))]
  | .list items => [typeMember nullable "array", ("items", .object (items.members false))]
  | .set items =>
    [typeMember nullable "array", ("items", .object (items.members false)),
      ("uniqueItems", .bool true)]

def noteMember (note : Option String) : List (String × Json) :=
  note.toList.map fun n => ("description", .string n)

structure Field where
  name : String
  shape : Shape
  /-- Whether the member may be null. -/
  nullable : Bool
  /-- Whether the member must be there. -/
  required : Bool
  note : Option String

namespace Field

def must (name : String) (shape : Shape) : Field := ⟨name, shape, false, true, none⟩

def may (name : String) (shape : Shape) : Field := ⟨name, shape, true, false, none⟩

def noted (f : Field) (note : String) : Field := { f with note := some note }

def toJson (f : Field) : Json :=
  .object (f.shape.members f.nullable ++ noteMember f.note)

end Field

inductive Schema where
  | text (note : Option String)
  | choice (note : Option String) (names : List String)
  | fields (note : Option String) (fs : List Field)

def Schema.toJson : Schema → Json
  | .text note => .object (typeMember false "string" :: noteMember note)
  | .choice note names =>
    .object (typeMember false "string" :: ("enum", .array (names.map .string)) :: noteMember note)
  | .fields note fs =>
    .object ([typeMember false "object",
      ("required", .array ((fs.filter (·.required)).map fun f => .string f.name)),
      ("properties", .object (fs.map fun f => (f.name, f.toJson)))] ++ noteMember note)

end Casebook.OpenApi
