import SdkGen.Error
import SdkGen.Template.Engine

/-!
# The templates of the generated files

* `declarationsTemplate`: the type declarations, one interface per record.
* `clientTemplate`: the client, one method per endpoint.
* `builtinEngine`: an engine with both.
-/

namespace SdkGen.TypeScript

open Template (Engine)

/-- A template's tag. -/
def tag (s : String) : String := "\x7b\x7b" ++ s ++ "\x7d\x7d"

/-- The names of the two templates. -/
def declarationsName : String := "types"

def clientName : String := "client"

/-- The template of the type declarations. -/
def declarationsTemplate : String :=
  "// Auto-generated TypeScript types from Go backend\n" ++
  "// Do not edit manually - regenerate with: " ++ tag "regenerate_command" ++
    tag "#each records" ++ "\n" ++
  "\n" ++
  "export interface " ++ tag "name" ++ " \x7b\n" ++
  tag "#each fields" ++ "  " ++ tag "key" ++ ": " ++ tag "ts_type" ++
    tag "#unless required" ++ " | null" ++ tag "/unless" ++ ";\n" ++
  tag "/each~" ++ "\n" ++
  "\x7d" ++ tag "/each" ++ "\n"

/-- The template of the client. -/
def clientTemplate : String :=
  "// Auto-generated TypeScript API client from Go backend\n" ++
  "// Do not edit manually - regenerate with: " ++ tag "regenerate_command" ++
    tag "#if import_list" ++ "\n" ++
  "\n" ++
  "import type \x7b " ++ tag "import_list" ++ " \x7d from '" ++ tag "types_import" ++ "';" ++
    tag "/if" ++ "\n" ++
  "\n" ++
  "const API_BASE_URL = " ++ tag "base_url" ++ ";\n" ++
  "\n" ++
  "class APIClient \x7b\n" ++
  "  private baseURL: string;\n" ++
  "\n" ++
  "  constructor(baseURL: string = API_BASE_URL) \x7b\n" ++
  "    this.baseURL = baseURL;\n" ++
  "  \x7d\n" ++
  "\n" ++
  "  private async request<T>(\n" ++
  "    endpoint: string,\n" ++
  "    options: RequestInit = \x7b\x7d\n" ++
  "  ): Promise<T> \x7b\n" ++
  "    const url = this.baseURL + endpoint;\n" ++
  "    const response = await fetch(url, \x7b\n" ++
  "      ...options,\n" ++
  "      headers: \x7b\n" ++
  "        'Content-Type': 'application/json',\n" ++
  "        ...options.headers,\n" ++
  "      \x7d,\n" ++
  "    \x7d);\n" ++
  "\n" ++
  "    if (!response.ok) \x7b\n" ++
  "      const error = await response.json().catch(() => (\x7b error: 'Unknown error' \x7d));\n" ++
  "      throw new Error(error.error || 'HTTP ' + response.status);\n" ++
  "    \x7d\n" ++
  "\n" ++
  "    return response.json();\n" ++
  "  \x7d" ++ tag "#each methods" ++ "\n" ++
  "\n" ++
  "  async " ++ tag "name" ++ "(" ++ tag "params" ++ "): Promise<" ++ tag "response_type" ++
    "> \x7b\n" ++
  "    return this.request<" ++ tag "response_type" ++ ">(" ++ tag "path_expr" ++ ", \x7b\n" ++
  "      method: '" ++ tag "method" ++ "'," ++ tag "#if has_body" ++ "\n" ++
  "      body: JSON.stringify(data)," ++ tag "/if" ++ "\n" ++
  "    \x7d);\n" ++
  "  \x7d" ++ tag "/each" ++ "\n" ++
  "\x7d\n" ++
  "\n" ++
  "// Export a singleton instance\n" ++
  "export const apiClient = new APIClient();\n" ++
  "\n" ++
  "// Export the class for custom instances\n" ++
  "export \x7b APIClient \x7d;\n"

/-- The engine with some templates; one that cannot be parsed is left out. -/
def engineOf (templates : List (String × String)) : Engine :=
  templates.foldl (fun e t => (e.register t.1 t.2).getD e) .empty

/-- The engine with the two templates. -/
def builtinEngine : Engine :=
  engineOf [(declarationsName, declarationsTemplate), (clientName, clientTemplate)]

/-- The error of a template that cannot be rendered. -/
def renderError (name : String) (f : Template.RenderFault) : Error :=
  .template s!"rendering '{name}' failed: {f.message}"

/-- The text of one of an engine's templates. -/
def renderTemplate (e : Engine) (name : String) (data : Json.Value) : Except Error String :=
  (e.render name data).mapError (renderError name)

end SdkGen.TypeScript
