import SdkGen.Model.TypeExpr
import SdkGen.Model.Payload
import SdkGen.Model.HttpMethod
import SdkGen.Model.Diagnostic
import SdkGen.Json.Value

/-!
# The extracted model

* `Record`: a struct with its fields.
* `Endpoint`: a handler with its route and payloads.
* `Extraction`: all that both emitters consume, with what was found odd on the way.

Each has a JSON form, `toJson`, with its members in a fixed order.
-/

namespace SdkGen

open Json (Value)

/-- A field of a record. -/
structure Field where
  name : String
  type : TypeExpr
  /-- The name on the wire, empty where no tag gives one. -/
  serializedName : String
  required : Bool
  deriving DecidableEq, Repr

/-- A struct with its fields in source order. -/
structure Record where
  name : String
  fields : List Field
  deriving DecidableEq, Repr

/-- A handler with its route. -/
structure Endpoint where
  method : HttpMethod
  path : String
  handler : String
  request : PayloadType
  response : PayloadType
  deriving DecidableEq, Repr

/-- The model of one source file. -/
structure Extraction where
  package : String
  records : List Record
  endpoints : List Endpoint
  diagnostics : List Diagnostic
  deriving DecidableEq, Repr

namespace Field

/-- The field's JSON form. -/
def toJson (f : Field) : Value :=
  .object [("name", .string f.name), ("type_expr", .string f.type.text),
    ("serialized_name", .string f.serializedName), ("required", .bool f.required)]

end Field

namespace Record

/-- The record's JSON form. -/
def toJson (r : Record) : Value :=
  .object [("name", .string r.name), ("fields", .array (r.fields.map Field.toJson))]

/-- The first field of that name. -/
def field? (r : Record) (name : String) : Option Field :=
  r.fields.find? fun f => f.name = name

end Record

namespace Endpoint

/-- The endpoint's JSON form. -/
def toJson (e : Endpoint) : Value :=
  .object [("method", .string e.method.name), ("path", .string e.path),
    ("handler_name", .string e.handler), ("request_type", .string e.request.text),
    ("response_type", .string e.response.text)]

/-- The declared types that the payloads refer to. -/
def importNames (e : Endpoint) : List String :=
  e.request.importName.toList ++ e.response.importName.toList

end Endpoint

namespace Extraction

/-- The model's JSON form. -/
def toJson (x : Extraction) : Value :=
  .object [("package", .string x.package), ("records", .array (x.records.map Record.toJson)),
    ("endpoints", .array (x.endpoints.map Endpoint.toJson)),
    ("diagnostics", .array (x.diagnostics.map Diagnostic.toJson))]

/-- The first record of that name. -/
def record? (x : Extraction) (name : String) : Option Record :=
  x.records.find? fun r => r.name = name

/-- The first endpoint of that handler. -/
def endpoint? (x : Extraction) (handler : String) : Option Endpoint :=
  x.endpoints.find? fun e => e.handler = handler

end Extraction

end SdkGen
