import SdkGen.Proofs.TypeScript.Templates
import SdkGen.TypeScript.Client

/-!
# The text of the client

What stands in the file of the client, spelled out without a template.

* `TakesData`: the endpoints whose requests have a body.
* `importText`, `methodText`, `clientText`: the import, a method, and the file.
* `render_client`: the rendered file is this text.
-/

namespace SdkGen.TypeScript

open Template
open Json (Value)

/-! ## The text -/

/-- An endpoint takes data if its verb has a body and its request has a type. -/
def TakesData (e : Endpoint) : Prop := e.method ∈ [.post, .put, .patch] ∧ e.request ≠ .void

instance (e : Endpoint) : Decidable (TakesData e) := by unfold TakesData; infer_instance

/-- The parameters of a method: one for each parameter of the path, and last the data. -/
def paramTexts (e : Endpoint) : List String :=
  (pathParams e.path).map (fun name => name ++ ": string | number") ++
    if TakesData e then ["data: " ++ e.request.text] else []

/-- The line that sends the data. -/
def bodyText (e : Endpoint) : String :=
  if TakesData e then "\n      body: JSON.stringify(data)," else ""

/-- The method of an endpoint. -/
def methodText (e : Endpoint) : String :=
  "\n\n  async " ++ methodName e.handler ++ "(" ++ ", ".intercalate (paramTexts e) ++
    "): Promise<" ++ e.response.text ++ "> \x7b\n    return this.request<" ++ e.response.text ++
    ">(" ++ pathExpression e.path ++ ", \x7b\n      method: '" ++ e.method.name ++ "'," ++
    bodyText e ++ "\n    \x7d);\n  \x7d"

/-- The import of the types; nothing where no type is imported. -/
def importText (importList typesImport : String) : String :=
  if importList = "" then ""
  else "\n\nimport type \x7b " ++ importList ++ " \x7d from '" ++ typesImport ++ "';"

/-- The file of some endpoints. -/
def clientText (st : ClientStyle) (endpoints : List Endpoint) (records : List Record) : String :=
  clientHead ++ st.regenerateCommand ++
    importText (", ".intercalate (imports endpoints records)) st.typesImport ++
    "\n\nconst API_BASE_URL = " ++ stringLiteral st.baseUrl ++ clientClass ++
    String.join (endpoints.map methodText) ++ clientTail

/-! ## Methods -/

theorem sendsBody_eq (e : Endpoint) : sendsBody e = decide (TakesData e) := by
  have hverb : e.method.hasBody = decide (e.method ∈ [.post, .put, .patch]) := by
    cases e.method <;> rfl
  rw [Bool.eq_iff_iff, decide_eq_true_iff, sendsBody, hverb]
  simp only [TakesData, Bool.and_eq_true, decide_eq_true_eq]

theorem methodParams_eq (e : Endpoint) : methodParams e = paramTexts e := by
  unfold methodParams paramTexts
  rw [sendsBody_eq]
  by_cases h : TakesData e <;> simp [h]

/-- What a method of the template is told. -/
def methodMembers (e : Endpoint) : List (String × Value) :=
  [("name", .string (methodName e.handler)), ("params", .string (", ".intercalate (paramTexts e))),
    ("response_type", .string e.response.text), ("path_expr", .string (pathExpression e.path)),
    ("method", .string e.method.name), ("has_body", .bool (decide (TakesData e)))]

/-- What the template is told. -/
def clientMembers (st : ClientStyle) (endpoints : List Endpoint) (records : List Record) :
    List (String × Value) :=
  [("regenerate_command", .string st.regenerateCommand),
    ("import_list", .string (", ".intercalate (imports endpoints records))),
    ("types_import", .string st.typesImport), ("base_url", .string (stringLiteral st.baseUrl)),
    ("methods", .array (endpoints.map fun e => .object (methodMembers e)))]

theorem data_clientStyle (st : ClientStyle) (endpoints : List Endpoint) (records : List Record) :
    st.data endpoints records = .object (clientMembers st endpoints records) := by
  have hmethod : ∀ e, methodData e = .object (methodMembers e) := by
    intro e
    rw [methodData, methodParams_eq, sendsBody_eq]
    rfl
  rw [ClientStyle.data, funext hmethod]
  rfl

/-! ## What the template writes -/

variable {named : Templates} {deeper : Found → Renderer} {ctx : Context}

theorem writes_method (p : Nat → Place) (e : Endpoint) (hsees : Sees ctx (methodMembers e)) :
    Writes (renderElements named deeper (methodElements p)) ctx (methodText e).toList := by
  have hbody : Writes (renderElements named deeper
      [.text ("\n" ++ "      body: JSON.stringify(data),").toList])
      { ctx with current := none } (("\n" ++ "      body: JSON.stringify(data),").toList ++ []) :=
    writes_cons (writes_text _) writes_nil
  refine Writes.congr (writes_cons (writes_text _)
    (writes_cons (writes_name _ hsees rfl (by decide) (by decide))
    (writes_cons (writes_text _)
    (writes_cons (writes_name _ hsees rfl (by decide) (by decide))
    (writes_cons (writes_text _)
    (writes_cons (writes_name _ hsees rfl (by decide) (by decide))
    (writes_cons (writes_text _)
    (writes_cons (writes_name _ hsees rfl (by decide) (by decide))
    (writes_cons (writes_text _)
    (writes_cons (writes_name _ hsees rfl (by decide) (by decide))
    (writes_cons (writes_text _)
    (writes_cons (writes_name _ hsees rfl (by decide) (by decide))
    (writes_cons (writes_text _)
    (writes_cons (writes_if true _ hsees rfl (by decide) hbody)
    (writes_cons (writes_text _) writes_nil))))))))))))))) ?_
  have h1 : "\n\n  async " = "\n" ++ "\n" ++ "  async " := by decide
  have h2 : "> \x7b\n    return this.request<" = "> \x7b\n" ++ "    return this.request<" := by
    decide
  have h3 : ", \x7b\n      method: '" = ", \x7b\n" ++ "      method: '" := by decide
  have h4 : "\n    \x7d);\n  \x7d" = "\n" ++ "    \x7d);\n" ++ "  \x7d" := by decide
  have h5 : (bodyText e).toList =
      if TakesData e then ("\n" ++ "      body: JSON.stringify(data),").toList else [] := by
    have : "\n      body: JSON.stringify(data)," = "\n" ++ "      body: JSON.stringify(data)," := by
      decide
    unfold bodyText
    rw [this]
    by_cases h : TakesData e <;> simp [h]
  unfold methodText
  simp only [h1, h2, h3, h4, h5, valueText, isTruthy, decide_eq_true_eq, String.toList_append,
    List.append_assoc, List.append_nil]

theorem writes_client (p : Nat → Place) (st : ClientStyle) (endpoints : List Endpoint)
    (records : List Record) (hsees : Sees ctx (clientMembers st endpoints records)) :
    Writes (renderElements named deeper (clientElements p)) ctx
      (clientText st endpoints records).toList := by
  have hsees' : Sees { ctx with current := none } (clientMembers st endpoints records) :=
    ⟨hsees.base, hsees.noNames⟩
  have himport : Writes (renderElements named deeper _) _ _ := writes_cons
    (writes_text ("\n" ++ "\n" ++ "import type \x7b ").toList)
    (writes_cons (writes_name (p 2) hsees' (w := "import_list") rfl (by decide) (by decide))
    (writes_cons (writes_text " \x7d from '".toList)
    (writes_cons (writes_name (p 3) hsees' (w := "types_import") rfl (by decide) (by decide))
    (writes_cons (writes_text "';".toList) writes_nil))))
  refine Writes.congr (writes_cons (writes_text _)
    (writes_cons (writes_name _ hsees rfl (by decide) (by decide))
    (writes_cons (writes_if true _ hsees rfl (by decide) himport)
    (writes_cons (writes_text _)
    (writes_cons (writes_name _ hsees rfl (by decide) (by decide))
    (writes_cons (writes_text _)
    (writes_cons (writes_each _ hsees rfl (by decide) fun e _ ctx he => writes_method p e he)
    (writes_cons (writes_text _) writes_nil)))))))) ?_
  have h1 : "\n\nconst API_BASE_URL = " = "\n" ++ "\n" ++ "const API_BASE_URL = " := by
    decide
  have h2 : ∀ imports typesImport : String, (importText imports typesImport).toList =
      if imports ≠ "" then ("\n" ++ "\n" ++ "import type \x7b ").toList ++ (imports.toList ++
        (" \x7d from '".toList ++ (typesImport.toList ++ ("';".toList ++ [])))) else [] := by
    intro imports typesImport
    have : "\n\nimport type \x7b " = "\n" ++ "\n" ++ "import type \x7b " := by decide
    unfold importText
    rw [this]
    by_cases h : imports = "" <;> simp [h]
  unfold clientText
  simp only [h1, h2, valueText, isTruthy, decide_eq_true_eq, String.toList_append,
    String.toList_join, List.flatMap_map, List.append_assoc, List.append_nil]

end SdkGen.TypeScript
