import SdkGen.Json.Value

/-!
# Diagnostics

Findings that do not stop the generation. Each has a kind, a message and a JSON form.
-/

namespace SdkGen

open Json (Value)

/-- A finding about a source file. -/
inductive Diagnostic
  /-- A handler without a route. -/
  | unresolvedHandler (handler : String)
  /-- A field without a wire name. -/
  | missingJsonTag (record field : String)
  /-- An embedded field, which is left out. -/
  | embeddedFieldSkipped (record typeName : String)
  /-- A payload type that is no record. -/
  | unknownImport (typeName : String)
  deriving DecidableEq, Repr

namespace Diagnostic

/-- The kind of the finding. -/
def kind : Diagnostic → String
  | unresolvedHandler _ => "unresolved_handler"
  | missingJsonTag _ _ => "missing_json_tag"
  | embeddedFieldSkipped _ _ => "embedded_field_skipped"
  | unknownImport _ => "unknown_import"

/-- The wording of the finding. -/
def message : Diagnostic → String
  | unresolvedHandler handler =>
    s!"handler '{handler}' has no route entry and was left out of the client"
  | missingJsonTag record field =>
    s!"field '{record}.{field}' has no json tag; its serialized name is empty"
  | embeddedFieldSkipped record typeName =>
    s!"embedded field '{typeName}' in '{record}' was skipped"
  | unknownImport typeName =>
    s!"type '{typeName}' is referenced by an endpoint but is not a known struct"

/-- The finding's JSON form. -/
def toJson (d : Diagnostic) : Value :=
  .object (("kind", .string d.kind) :: match d with
    | unresolvedHandler handler => [("handler", .string handler)]
    | missingJsonTag record field => [("record", .string record), ("field", .string field)]
    | embeddedFieldSkipped record typeName =>
      [("record", .string record), ("type_name", .string typeName)]
    | unknownImport typeName => [("type_name", .string typeName)])

end Diagnostic

end SdkGen
