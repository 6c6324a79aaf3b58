import SdkGen.Proofs.Template.Builds
import SdkGen.Proofs.Template.Writes
import SdkGen.Proofs.Text.Keyed
import SdkGen.TypeScript.Templates

/-!
# The built-in templates, parsed

* `declarationsScript`, `clientScript`: the two templates as parts.
* `parse?_declarations`, `parse?_client`: their elements, wherever the tags stand.
* `register_builtin`: both can be registered, and make the built-in engine.
-/

namespace SdkGen.TypeScript

open Template

theorem toList_tag (s : String) : (tag s).toList = doubleOpen ++ (s.toList ++ doubleClose) := by
  rw [tag, String.toList_append, String.toList_append, List.append_assoc]
  rfl

/-! ## The type declarations -/

/-- The lines before the interfaces. -/
def declarationsHead : String :=
  "// Auto-generated TypeScript types from Go backend\n" ++
  "// Do not edit manually - regenerate with: "

/-- The parts of the template of the type declarations. -/
def declarationsScript : Script :=
  [.text declarationsHead, .name "regenerate_command", .opening "each" "records",
    .text ("\n" ++ "\n" ++ "export interface "), .name "name", .text " \x7b\n",
    .opening "each" "fields", .text "  ", .name "key", .text ": ", .name "ts_type",
    .opening "unless" "required", .text " | null", .closing "unless" false, .text ";\n",
    .closing "each" true, .text ("\n" ++ "\x7d"), .closing "each" false, .text "\n"]

theorem written_declarations : declarationsScript.written = declarationsTemplate.toList := by
  have h1 : "#each records".toList = '#' :: ("each".toList ++ ' ' :: "records".toList) := by
    decide
  have h2 : "#each fields".toList = '#' :: ("each".toList ++ ' ' :: "fields".toList) := by
    decide
  have h3 : "#unless required".toList = '#' :: ("unless".toList ++ ' ' :: "required".toList) := by
    decide
  have h4 : "/unless".toList = '/' :: "unless".toList := by decide
  have h5 : "/each".toList = '/' :: "each".toList := by decide
  have h6 : "/each~".toList = '/' :: ("each".toList ++ ['~']) := by decide
  unfold declarationsScript declarationsTemplate declarationsHead
  simp only [toList_tag, h1, h2, h3, h4, h5, h6, Script.written, List.flatMap_cons,
    List.flatMap_nil, Part.written, Part.inside, String.toList_append, List.append_assoc,
    List.append_nil, List.cons_append, List.nil_append, if_true, Bool.false_eq_true, if_false]

theorem isPlain_declarations : declarationsScript.IsPlain := by
  unfold declarationsScript declarationsHead
  simp only [Script.IsPlain, Part.IsPlain, String.toList_append]
  repeat' apply And.intro
  all_goals repeat rw [String.toList_ofList]
  all_goals decide

/-- The elements of a field's line. -/
def lineElements (p : Nat → Place) : List Element :=
  [.text "  ".toList, .expression (p 4) (nameCall "key".toList), .text ": ".toList,
    .expression (p 5) (nameCall "ts_type".toList),
    .block (p 6) false (blockCall "unless".toList "required".toList) []
      [.text " | null".toList] none,
    .text ";\n".toList]

/-- The elements of an interface. -/
def interfaceElements (p : Nat → Place) : List Element :=
  [.text ("\n" ++ "\n" ++ "export interface ").toList,
    .expression (p 2) (nameCall "name".toList), .text " \x7b\n".toList,
    .block (p 3) false (blockCall "each".toList "fields".toList) [] (lineElements p) none,
    .text "\x7d".toList]

/-- The elements of the type declarations. -/
def declarationsElements (p : Nat → Place) : List Element :=
  [.text declarationsHead.toList, .expression (p 0) (nameCall "regenerate_command".toList),
    .block (p 1) false (blockCall "each".toList "records".toList) [] (interfaceElements p) none,
    .text "\n".toList]

theorem builds_declarations :
    Builds ⟨[], [], false, false⟩ .start declarationsScript
      fun es => ∃ p, es = declarationsElements p := by
  refine builds_text ?_
  refine builds_name fun p0 => ?_
  refine builds_opening isAlone_afterTag fun p1 => ?_
  refine builds_text ?_
  refine builds_name fun p2 => ?_
  refine builds_text ?_
  refine builds_opening (by decide) fun p3 => ?_
  refine builds_text ?_
  refine builds_name fun p4 => ?_
  refine builds_text ?_
  refine builds_name fun p5 => ?_
  refine builds_opening isAlone_afterTag fun p6 => ?_
  refine builds_text ?_
  refine builds_closing (a := false) (by decide) (by simp) ?_
  refine builds_text ?_
  -- this closing tag stands alone, but the line before it ends in no blanks
  refine builds_closing (a := true) (by decide) (fun _ => ?_) ?_
  · have hend : (";\n".toList.reverse.dropWhile isLineBlank).reverse = ";\n".toList := by
      decide
    rw [Builder.trimLast, hend]
  refine builds_text_trimmed (by decide) ?_
  refine builds_closing (a := false) (by decide) (by simp) ?_
  refine builds_text ?_
  refine builds_nil ⟨fun | 0 => p0 | 1 => p1 | 2 => p2 | 3 => p3 | 4 => p4 | 5 => p5 | _ => p6, ?_⟩
  have hbrace : ("\n" ++ "\x7d").toList.dropWhile Blank.isBlank = "\x7d".toList := by decide
  rw [hbrace]
  rfl

/-- The template of the type declarations is parsed. -/
theorem parse?_declarations :
    ∃ p, parse? declarationsTemplate.toList = some (declarationsElements p) := by
  obtain ⟨es, hes, p, rfl⟩ := parse?_builds isPlain_declarations builds_declarations
  exact ⟨p, written_declarations ▸ hes⟩

/-! ## The client -/

/-- The lines before the import. -/
def clientHead : String :=
  "// Auto-generated TypeScript API client from Go backend\n" ++
  "// Do not edit manually - regenerate with: "

/-- The start of the class, up to its methods. -/
def clientClass : String :=
  ";\n" ++
  "\n" ++
  "class APIClient \x7b\n" ++
  "  private baseURL: string;\n" ++
  "\n" ++
  "  constructor(baseURL: string = API_BASE_URL) \x7b\n" ++
  "    this.baseURL = baseURL;\n" ++
  "  \x7d\n" ++
  "\n" ++
  "  private async request<T>(\n" ++
  "    endpoint: string,\n" ++
  "    options: RequestInit = \x7b\x7d\n" ++
  "  ): Promise<T> \x7b\n" ++
  "    const url = this.baseURL + endpoint;\n" ++
  "    const response = await fetch(url, \x7b\n" ++
  "      ...options,\n" ++
  "      headers: \x7b\n" ++
  "        'Content-Type': 'application/json',\n" ++
  "        ...options.headers,\n" ++
  "      \x7d,\n" ++
  "    \x7d);\n" ++
  "\n" ++
  "    if (!response.ok) \x7b\n" ++
  "      const error = await response.json().catch(() => (\x7b error: 'Unknown error' \x7d));\n" ++
  "      throw new Error(error.error || 'HTTP ' + response.status);\n" ++
  "    \x7d\n" ++
  "\n" ++
  "    return response.json();\n" ++
  "  \x7d"

/-- The lines after the methods. -/
def clientTail : String :=
  "\n" ++
  "\x7d\n" ++
  "\n" ++
  "// Export a singleton instance\n" ++
  "export const apiClient = new APIClient();\n" ++
  "\n" ++
  "// Export the class for custom instances\n" ++
  "export \x7b APIClient \x7d;\n"

/-- The parts of the template of the client. -/
def clientScript : Script :=
  [.text clientHead, .name "regenerate_command", .opening "if" "import_list",
    .text ("\n" ++ "\n" ++ "import type \x7b "), .name "import_list", .text " \x7d from '",
    .name "types_import", .text "';", .closing "if" false,
    .text ("\n" ++ "\n" ++ "const API_BASE_URL = "), .name "base_url", .text clientClass,
    .opening "each" "methods", .text ("\n" ++ "\n" ++ "  async "), .name "name", .text "(",
    .name "params", .text "): Promise<", .name "response_type",
    .text ("> \x7b\n" ++ "    return this.request<"), .name "response_type", .text ">(",
    .name "path_expr", .text (", \x7b\n" ++ "      method: '"), .name "method", .text "',",
    .opening "if" "has_body", .text ("\n" ++ "      body: JSON.stringify(data),"),
    .closing "if" false, .text ("\n" ++ "    \x7d);\n" ++ "  \x7d"), .closing "each" false,
    .text clientTail]

theorem written_client : clientScript.written = clientTemplate.toList := by
  have h1 : "#if import_list".toList = '#' :: ("if".toList ++ ' ' :: "import_list".toList) := by
    decide
  have h2 : "#each methods".toList = '#' :: ("each".toList ++ ' ' :: "methods".toList) := by
    decide
  have h3 : "#if has_body".toList = '#' :: ("if".toList ++ ' ' :: "has_body".toList) := by
    decide
  have h4 : "/if".toList = '/' :: "if".toList := by decide
  have h5 : "/each".toList = '/' :: "each".toList := by decide
  unfold clientScript clientTemplate clientHead clientClass clientTail
  simp only [toList_tag, h1, h2, h3, h4, h5, Script.written, List.flatMap_cons,
    List.flatMap_nil, Part.written, Part.inside, String.toList_append, List.append_assoc,
    List.append_nil, List.cons_append, Bool.false_eq_true, if_false]

set_option maxRecDepth 2000 in
theorem isPlain_client : clientScript.IsPlain := by
  unfold clientScript clientHead clientClass clientTail
  simp only [Script.IsPlain, Part.IsPlain, String.toList_append]
  repeat' apply And.intro
  all_goals repeat rw [String.toList_ofList]
  all_goals decide

/-- The elements of the import. -/
def importElements (p : Nat → Place) : List Element :=
  [.text ("\n" ++ "\n" ++ "import type \x7b ").toList,
    .expression (p 2) (nameCall "import_list".toList), .text " \x7d from '".toList,
    .expression (p 3) (nameCall "types_import".toList), .text "';".toList]

/-- The elements of a method. -/
def methodElements (p : Nat → Place) : List Element :=
  [.text ("\n" ++ "\n" ++ "  async ").toList, .expression (p 6) (nameCall "name".toList),
    .text "(".toList, .expression (p 7) (nameCall "params".toList),
    .text "): Promise<".toList, .expression (p 8) (nameCall "response_type".toList),
    .text ("> \x7b\n" ++ "    return this.request<").toList,
    .expression (p 9) (nameCall "response_type".toList), .text ">(".toList,
    .expression (p 10) (nameCall "path_expr".toList),
    .text (", \x7b\n" ++ "      method: '").toList,
    .expression (p 11) (nameCall "method".toList), .text "',".toList,
    .block (p 12) false (blockCall "if".toList "has_body".toList) []
      [.text ("\n" ++ "      body: JSON.stringify(data),").toList] none,
    .text ("\n" ++ "    \x7d);\n" ++ "  \x7d").toList]

/-- The elements of the client. -/
def clientElements (p : Nat → Place) : List Element :=
  [.text clientHead.toList, .expression (p 0) (nameCall "regenerate_command".toList),
    .block (p 1) false (blockCall "if".toList "import_list".toList) [] (importElements p) none,
    .text ("\n" ++ "\n" ++ "const API_BASE_URL = ").toList,
    .expression (p 4) (nameCall "base_url".toList), .text clientClass.toList,
    .block (p 5) false (blockCall "each".toList "methods".toList) [] (methodElements p) none,
    .text clientTail.toList]

/-- The first tag of the methods follows a brace on its line. -/
theorem isAlone_clientClass (lead : Lead) (ps : Script) :
    isAlone (lead.after clientClass.toList) ps = false := by
  have hend : "  \x7d".toList = [' ', ' '] ++ ['}'] := by decide
  unfold clientClass
  rw [String.toList_append, hend, ← List.append_assoc]
  exact isAlone_after (by decide)

theorem builds_client :
    Builds ⟨[], [], false, false⟩ .start clientScript fun es => ∃ p, es = clientElements p := by
  refine builds_text ?_
  refine builds_name fun p0 => ?_
  refine builds_opening isAlone_afterTag fun p1 => ?_
  refine builds_text ?_
  refine builds_name fun p2 => ?_
  refine builds_text ?_
  refine builds_name fun p3 => ?_
  refine builds_text ?_
  refine builds_closing (a := false) (by decide) (by simp) ?_
  refine builds_text ?_
  refine builds_name fun p4 => ?_
  refine builds_text ?_
  refine builds_opening (isAlone_clientClass _ _) fun p5 => ?_
  refine builds_text ?_
  refine builds_name fun p6 => ?_
  refine builds_text ?_
  refine builds_name fun p7 => ?_
  refine builds_text ?_
  refine builds_name fun p8 => ?_
  refine builds_text ?_
  refine builds_name fun p9 => ?_
  refine builds_text ?_
  refine builds_name fun p10 => ?_
  refine builds_text ?_
  refine builds_name fun p11 => ?_
  refine builds_text ?_
  refine builds_opening (by decide) fun p12 => ?_
  refine builds_text ?_
  refine builds_closing (a := false) (by decide) (by simp) ?_
  refine builds_text ?_
  refine builds_closing (a := false) (by decide) (by simp) ?_
  refine builds_text ?_
  exact builds_nil ⟨fun
    | 0 => p0 | 1 => p1 | 2 => p2 | 3 => p3 | 4 => p4 | 5 => p5 | 6 => p6 | 7 => p7 | 8 => p8
    | 9 => p9 | 10 => p10 | 11 => p11 | _ => p12, rfl⟩

/-- The template of the client is parsed. -/
theorem parse?_client : ∃ p, parse? clientTemplate.toList = some (clientElements p) := by
  obtain ⟨es, hes, p, rfl⟩ := parse?_builds isPlain_client builds_client
  exact ⟨p, written_client ▸ hes⟩

/-! ## The engine -/

/-- Both templates can be registered, and make the built-in engine. -/
theorem register_builtin :
    (Engine.empty.register declarationsName declarationsTemplate).bind
      (Engine.register · clientName clientTemplate) = some builtinEngine := by
  obtain ⟨p, hp⟩ := parse?_declarations
  obtain ⟨q, hq⟩ := parse?_client
  unfold builtinEngine engineOf Engine.register
  simp only [List.foldl_cons, List.foldl_nil, hp, hq, Option.map_some, Option.bind_some,
    Option.getD_some]

/-- The built-in engine holds the elements of the type declarations. -/
theorem lookup_declarations :
    ∃ p, Keyed.lookup declarationsName builtinEngine.templates = some (declarationsElements p) := by
  obtain ⟨p, hp⟩ := parse?_declarations
  obtain ⟨q, hq⟩ := parse?_client
  have hne : clientName ≠ declarationsName := by decide
  refine ⟨p, ?_⟩
  unfold builtinEngine engineOf Engine.register
  simp only [List.foldl_cons, List.foldl_nil, hp, hq, Option.map_some, Option.getD_some]
  rw [Keyed.lookup_insert, if_neg hne, Keyed.lookup_insert_self]

/-- The built-in engine holds the elements of the client. -/
theorem lookup_client :
    ∃ p, Keyed.lookup clientName builtinEngine.templates = some (clientElements p) := by
  obtain ⟨p, hp⟩ := parse?_declarations
  obtain ⟨q, hq⟩ := parse?_client
  refine ⟨q, ?_⟩
  unfold builtinEngine engineOf Engine.register
  simp only [List.foldl_cons, List.foldl_nil, hp, hq, Option.map_some, Option.getD_some]
  rw [Keyed.lookup_insert_self]

end SdkGen.TypeScript
