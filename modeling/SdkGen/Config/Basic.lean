import SdkGen.Config.Route
import SdkGen.Text.Keyed

/-!
# The configuration of a generation

`GeneratorConfig` holds every setting; a setting that is not given has its default.
`GeneratorConfig.validate` finds the first fault.
-/

namespace SdkGen

open Json (Value)

/-- The settings of a generation. -/
structure GeneratorConfig where
  /-- The source file. -/
  source : String := "main.go"
  /-- Where the type declarations are written. -/
  typesOutput : String := "../web/src/types/api.ts"
  /-- Where the client is written. -/
  clientOutput : String := "../web/src/utils/apiClient.ts"
  /-- The base URL that the client falls back on. -/
  baseUrl : String := "http://localhost:3001"
  /-- The command that the header of each file names. -/
  regenerateCommand : String := "cd backend && tsgen generate"
  /-- The module from which the client imports its types. -/
  typesImport : String := "../types/api"
  /-- Whether a field without a wire name keeps its own. -/
  fallbackToFieldName : Bool := false
  routes : List RouteConfig := []
  /-- Types in place of the built-in ones, by the text of the type; in the order of their keys. -/
  types : List (String × String) := []
  deriving DecidableEq, Repr, Inhabited

namespace GeneratorConfig

/-- Whether a text holds nothing but blanks. -/
def isBlankText (s : String) : Bool := s.toList.all Blank.isBlank

/-- The first route that is not valid, or that repeats a handler. -/
def routesFault (seen : List String) : List RouteConfig → Option ConfigFault
  | [] => none
  | r :: rs =>
    match r.fault? with
    | some f => some f
    | none =>
      if seen.contains r.handler then some (.duplicateRoute r.handler)
      else routesFault (r.handler :: seen) rs

/-- The first entry of the type table that lacks a type. -/
def typesFault (types : List (String × String)) : Option ConfigFault :=
  (types.find? fun t => isBlankText t.1 || isBlankText t.2).map fun t =>
    .incompleteOverride t.1 t.2

/-- The first fault of a configuration. -/
def fault? (c : GeneratorConfig) : Option ConfigFault :=
  if c.source = "" then some (.empty "source")
  else if c.typesOutput = "" then some (.empty "types_output")
  else if c.clientOutput = "" then some (.empty "client_output")
  else if isBlankText c.baseUrl then some (.empty "base_url")
  else if isBlankText c.typesImport then some (.empty "types_import")
  else match typesFault c.types with
    | some f => some f
    | none => routesFault [] c.routes

/-- The configuration, if it has no fault. -/
def validate (c : GeneratorConfig) : Except ConfigFault GeneratorConfig :=
  match c.fault? with
  | some f => .error f
  | none => .ok c

/-- The configuration's JSON form. -/
def toJson (c : GeneratorConfig) : Value :=
  .object [("source", .string c.source), ("types_output", .string c.typesOutput),
    ("client_output", .string c.clientOutput), ("base_url", .string c.baseUrl),
    ("regenerate_command", .string c.regenerateCommand), ("types_import", .string c.typesImport),
    ("fallback_to_field_name", .bool c.fallbackToFieldName),
    ("routes", .array (c.routes.map RouteConfig.toJson)),
    ("types", .object (c.types.map fun t => (t.1, .string t.2)))]

end GeneratorConfig

end SdkGen
