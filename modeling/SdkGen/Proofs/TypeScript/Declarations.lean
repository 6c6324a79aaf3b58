import SdkGen.Proofs.TypeScript.Templates
import SdkGen.TypeScript.Sdk

/-!
# The text of the type declarations

What stands in the file of type declarations, spelled out without a template.

* `fieldLine`, `interfaceText`, `declarationsText`: a line, an interface, and the file.
* `map_typeTable`: the type of a field is the configured one, else the built-in one, else its text.
* `generateTypes_eq`: the generated file is this text.
-/

namespace SdkGen.TypeScript

open Template
open Json (Value)

variable (c : GeneratorConfig)

/-! ## The text -/

/-- The key of a field: its own name only where it has none on the wire and the fallback is on. -/
def fieldKey (f : Field) : String :=
  if f.serializedName = "" ∧ c.fallbackToFieldName = true then f.name else f.serializedName

/-- The type of a type expression: the configured one of its whole text, the last where a text is
configured twice; else the built-in one; else the text. -/
def fieldType (t : TypeExpr) : String :=
  match Keyed.lookup t.text c.types.reverse, TypeTable.builtin.lookup t.text with
  | some configured, _ => configured
  | none, some builtin => builtin
  | none, none => t.text

/-- The line of a field. -/
def fieldLine (f : Field) : String :=
  "  " ++ fieldKey c f ++ ": " ++ fieldType c f.type ++
    (if f.required then ";\n" else " | null;\n")

/-- The interface of a record. -/
def interfaceText (r : Record) : String :=
  "\n\nexport interface " ++ r.name ++ " \x7b\n" ++ String.join (r.fields.map (fieldLine c)) ++
    "\x7d"

/-- The file of some records. -/
def declarationsText (records : List Record) : String :=
  "// Auto-generated TypeScript types from Go backend\n" ++
    "// Do not edit manually - regenerate with: " ++ c.regenerateCommand ++
    String.join (records.map (interfaceText c)) ++ "\n"

/-! ## Keys and types -/

theorem key_declarationStyle (f : Field) : (declarationStyle c).key f = fieldKey c f := by
  simp [DeclarationStyle.key, declarationStyle, fieldKey]

theorem lookup_setAll (t : TypeTable) (es : List (String × String)) (go : String) :
    (t.setAll es).lookup go = (Keyed.lookup go es.reverse).or (t.lookup go) := by
  have hentries : (t.setAll es).entries =
      es.foldl (fun acc e => Keyed.insert e.1 e.2 acc) t.entries := by
    unfold TypeTable.setAll
    induction es generalizing t with
    | nil => rfl
    | cons e es ih => rw [List.foldl_cons, ih, List.foldl_cons]; rfl
  unfold TypeTable.lookup
  rw [hentries, Keyed.lookup_insertAll]

/-- The table of a configuration gives the configured type, else the built-in one, else the text. -/
theorem map_typeTable (t : TypeExpr) : (typeTable c).map t = fieldType c t := by
  unfold typeTable TypeTable.map fieldType
  rw [lookup_setAll]
  cases Keyed.lookup t.text c.types.reverse with
  | some s => rfl
  | none => cases TypeTable.builtin.lookup t.text <;> rfl

/-! ## What the template writes -/

/-- What a line of the template is told. -/
def fieldMembers (f : Field) : List (String × Value) :=
  [("key", .string (fieldKey c f)), ("ts_type", .string (fieldType c f.type)),
    ("required", .bool f.required)]

/-- What an interface of the template is told. -/
def recordMembers (r : Record) : List (String × Value) :=
  [("name", .string r.name), ("fields", .array (r.fields.map fun f => .object (fieldMembers c f)))]

theorem data_declarationStyle (records : List Record) :
    (declarationStyle c).data records =
      .object [("regenerate_command", .string c.regenerateCommand),
        ("records", .array (records.map fun r => .object (recordMembers c r)))] := by
  have hfield : ∀ f, (declarationStyle c).fieldData f = .object (fieldMembers c f) := by
    intro f
    rw [DeclarationStyle.fieldData, key_declarationStyle]
    rw [show (declarationStyle c).types = typeTable c from rfl, map_typeTable]
    rfl
  have hrecord : ∀ r, (declarationStyle c).recordData r = .object (recordMembers c r) := by
    intro r
    rw [DeclarationStyle.recordData, funext hfield]
    rfl
  rw [DeclarationStyle.data, funext hrecord]
  rfl

variable {named : Templates} {deeper : Found → Renderer} {ctx : Context}

theorem writes_line (p : Nat → Place) (f : Field) (hsees : Sees ctx (fieldMembers c f)) :
    Writes (renderElements named deeper (lineElements p)) ctx (fieldLine c f).toList := by
  have hnull : Writes (renderElements named deeper [.text " | null".toList])
      { ctx with current := none } (" | null".toList ++ []) :=
    writes_cons (writes_text _) writes_nil
  refine Writes.congr (writes_cons (writes_text _)
    (writes_cons (writes_name _ hsees rfl (by decide) (by decide))
    (writes_cons (writes_text _)
    (writes_cons (writes_name _ hsees rfl (by decide) (by decide))
    (writes_cons (writes_if false _ hsees rfl (by decide) hnull)
    (writes_cons (writes_text _) writes_nil)))))) ?_
  simp only [fieldLine, valueText, isTruthy, String.toList_append, List.append_assoc,
    List.append_nil]
  cases f.required with
  | true => rfl
  | false => rfl

theorem writes_interface (p : Nat → Place) (r : Record) (hsees : Sees ctx (recordMembers c r)) :
    Writes (renderElements named deeper (interfaceElements p)) ctx
      (interfaceText c r).toList := by
  refine Writes.congr (writes_cons (writes_text _)
    (writes_cons (writes_name _ hsees rfl (by decide) (by decide))
    (writes_cons (writes_text _)
    (writes_cons (writes_each _ hsees rfl (by decide) fun f _ ctx hf => writes_line c p f hf)
    (writes_cons (writes_text _) writes_nil))))) ?_
  have hstart : "\n\nexport interface " = "\n" ++ "\n" ++ "export interface " := by decide
  unfold interfaceText
  simp only [hstart, valueText, String.toList_append, String.toList_join, List.flatMap_map,
    List.append_assoc, List.append_nil]

theorem writes_declarations (p : Nat → Place) (records : List Record)
    (hsees : Sees ctx [("regenerate_command", .string c.regenerateCommand),
      ("records", .array (records.map fun r => .object (recordMembers c r)))]) :
    Writes (renderElements named deeper (declarationsElements p)) ctx
      (declarationsText c records).toList := by
  refine Writes.congr (writes_cons (writes_text _)
    (writes_cons (writes_name _ hsees rfl (by decide) (by decide))
    (writes_cons (writes_each _ hsees rfl (by decide) fun r _ ctx hr => writes_interface c p r hr)
    (writes_cons (writes_text _) writes_nil)))) ?_
  unfold declarationsText declarationsHead
  simp only [valueText, String.toList_append, String.toList_join, List.flatMap_map,
    List.append_assoc, List.append_nil]

/-- **The file of type declarations is made of its lines as they stand.** -/
theorem generateTypes_eq (x : Extraction) :
    (Engine.empty.register declarationsName declarationsTemplate).bind
        (Engine.register · clientName clientTemplate) = some builtinEngine ∧
      generateTypes c x = .ok (declarationsText c x.records) := by
  refine ⟨register_builtin, ?_⟩
  obtain ⟨p, hp⟩ := lookup_declarations
  have hrender := render_eq hp fun deeper ctx hsees =>
    writes_declarations c p x.records hsees
  unfold generateTypes DeclarationStyle.render renderTemplate
  rw [data_declarationStyle, hrender, String.ofList_toList]
  rfl

end SdkGen.TypeScript
