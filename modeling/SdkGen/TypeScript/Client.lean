import SdkGen.Extraction.Extract
import SdkGen.Text.Lowercase
import SdkGen.TypeScript.Path
import SdkGen.TypeScript.Templates

/-!
# The API client

The client has one method per endpoint.

* `methodName`: a handler's method.
* `imports`: the types that the client imports.
* `ClientStyle.data`, `ClientStyle.render`: what the template is filled with, and the file.
-/

namespace SdkGen.TypeScript

open Json (Value)

/-- The name of a handler's method: the handler's name without its start, its first letter in
lowercase. -/
def methodName (handler : String) : String :=
  match (Occurrence.dropPrefix handlerPrefix.toList handler.toList).getD handler.toList with
  | [] => ""
  | c :: r => String.ofList (Lowercase.ofChar c ++ r)

/-- The types that endpoints refer to, each once, in increasing order. -/
def referencedTypes (endpoints : List Endpoint) : List String :=
  sortedNames (endpoints.flatMap Endpoint.importNames)

/-- The referenced types that are records, each once, in increasing order. -/
def imports (endpoints : List Endpoint) (records : List Record) : List String :=
  (referencedTypes endpoints).filter (isRecordName records)

/-- Whether a method sends a body. -/
def sendsBody (e : Endpoint) : Bool := e.method.hasBody && e.request ≠ .void

/-- The parameters of a method. -/
def methodParams (e : Endpoint) : List String :=
  (pathParams e.path).map (· ++ ": string | number") ++
    if sendsBody e then ["data: " ++ e.request.text] else []

/-- What the template is told of a method. -/
def methodData (e : Endpoint) : Value :=
  .object [("name", .string (methodName e.handler)),
    ("params", .string (", ".intercalate (methodParams e))),
    ("response_type", .string e.response.text), ("path_expr", .string (pathExpression e.path)),
    ("method", .string e.method.name), ("has_body", .bool (sendsBody e))]

/-- How a client is written. -/
structure ClientStyle where
  regenerateCommand : String
  baseUrl : String
  typesImport : String := "../types/api"

namespace ClientStyle

/-- What the template is filled with. -/
def data (st : ClientStyle) (endpoints : List Endpoint) (records : List Record) : Value :=
  .object [("regenerate_command", .string st.regenerateCommand),
    ("import_list", .string (", ".intercalate (imports endpoints records))),
    ("types_import", .string st.typesImport), ("base_url", .string (stringLiteral st.baseUrl)),
    ("methods", .array (endpoints.map methodData))]

/-- The client of some endpoints. -/
def render (st : ClientStyle) (e : Template.Engine) (endpoints : List Endpoint)
    (records : List Record) : Except Error String :=
  renderTemplate e clientName (st.data endpoints records)

end ClientStyle

end SdkGen.TypeScript
