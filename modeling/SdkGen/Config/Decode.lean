import SdkGen.Config.Basic
import SdkGen.Toml.Decode

/-!
# Configurations from TOML

* `GeneratorConfig.ofEntries`: the configuration that a table gives; what it leaves out has its
  default, and keys that are not known are refused.
* `GeneratorConfig.read`: the configuration of a document, not yet validated.
* `GeneratorConfig.parse`: the same, validated.
-/

namespace SdkGen

open Toml (Entries Fault Key)

namespace RouteConfig

/-- The keys of a route, in the order in which a list gives them. -/
def keys : List String := ["handler", "method", "path", "request", "response"]

/-- A route of which keys may still be missing. -/
structure Draft where
  handler : Option String := none
  method : Option String := none
  path : Option String := none
  request : String := defaultRequest
  response : String := defaultResponse

/-- Adds a key of a route. -/
def Draft.add (r : Draft) : String × Toml.Span × Toml.Value → Except Fault Draft
  | (key, span, v) => do
    let text := v.toText "a string"
    match key with
    | "handler" => return { r with handler := some (← text) }
    | "method" => return { r with method := some (← text) }
    | "path" => return { r with path := some (← text) }
    | "request" => return { r with request := ← text }
    | "response" => return { r with response := ← text }
    | _ => .error (Toml.unknownField key span keys)

/-- The route, if handler, method and path are there. -/
def Draft.finish (r : Draft) (span : Toml.Span) : Except Fault RouteConfig :=
  let missing := fun (key : String) => Except.error (Fault.mk span s!"missing field `{key}`")
  match r.handler, r.method, r.path with
  | none, _, _ => missing "handler"
  | _, none, _ => missing "method"
  | _, _, none => missing "path"
  | some h, some m, some p => .ok ⟨h, m, p, r.request, r.response⟩

/-- A route from a table, or from a list of the values of its keys. -/
def ofToml (v : Toml.Value) : Except Fault RouteConfig :=
  match v with
  | .array items _ span => do
    let named := (keys.zip items).map fun (k, item) => (k, span, item)
    let r ← named.foldlM Draft.add {}
    if items.length < 3 then
      .error ⟨span, s!"invalid length {items.length}, expected struct RouteConfig with 5 elements"⟩
    else r.finish span
  | v => do
    let r ← (← v.toEntries "struct RouteConfig").foldlM Draft.add {}
    r.finish v.span

end RouteConfig

namespace GeneratorConfig

/-- The keys of a configuration. -/
def keys : List String :=
  ["source", "types_output", "client_output", "base_url", "regenerate_command", "types_import",
    "fallback_to_field_name", "routes", "types"]

/-- The table of types that a value gives. -/
def typesOf (v : Toml.Value) : Except Fault (List (String × String)) := do
  (← v.toEntries "a map").mapM fun (k, _, w) => do return (k, ← w.toText "a string")

/-- Changes the setting that a key names. -/
def set (c : GeneratorConfig) : String × Toml.Span × Toml.Value → Except Fault GeneratorConfig
  | (key, span, v) => do
    let text := v.toText "a string"
    let path := v.toText "path string"
    match key with
    | "source" => return { c with source := ← path }
    | "types_output" => return { c with typesOutput := ← path }
    | "client_output" => return { c with clientOutput := ← path }
    | "base_url" => return { c with baseUrl := ← text }
    | "regenerate_command" => return { c with regenerateCommand := ← text }
    | "types_import" => return { c with typesImport := ← text }
    | "fallback_to_field_name" => return { c with fallbackToFieldName := ← v.toBoolean }
    | "routes" => return { c with routes := ← (← v.toItems).mapM RouteConfig.ofToml }
    | "types" => return { c with types := ← typesOf v }
    | _ => .error (Toml.unknownField key span keys)

/-- The configuration that a table gives. -/
def ofEntries (es : Entries) : Except Fault GeneratorConfig :=
  es.foldlM set {}

/-- The configuration of a document, not yet validated. A document with a number that is too
large is none. -/
def read (document : String) : Except ConfigFault GeneratorConfig := do
  let es ← (Toml.Document.parse document).mapError fun f => .malformed (f.report document)
  (ofEntries es).mapError fun f =>
    if Toml.Value.entriesFit es then .document (f.report document)
    else .malformed (f.report document)

/-- The configuration of a document, validated. -/
def parse (document : String) : Except ConfigFault GeneratorConfig := do
  (← read document).validate

end GeneratorConfig

end SdkGen
