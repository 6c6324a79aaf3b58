import SdkGen.Proofs.Extraction.Named
import SdkGen.Proofs.Extraction.Plain
import SdkGen.Proofs.Extraction.TagSpellings
import SdkGen.Proofs.Text.Lines
import SdkGen.Proofs.TypeScript.Sdk

/-!
# The lines of the type declarations

The file of type declarations has two rows in front, and four parts for each record: an empty row, a
head, a row for each field, and a closing brace. A row is one line if it has no line feed, and the
only texts from which a row may have one are the wire names of the fields and the settings.

* `fieldRow`, `interfaceRows`, `declarationRows`: the rows of a field, of an interface, of the file.
* `declarationsText_eq_ended`: the file is made of its rows.
* `one_line_per_field_iff`: in the default settings the rows are the lines of the file if and only if
  no wire name has a line feed.
-/

namespace SdkGen.TypeScript

variable (c : GeneratorConfig)

/-! ## Rows -/

/-- The row of a field. -/
def fieldRow (f : Field) : String :=
  "  " ++ fieldKey c f ++ ": " ++ fieldType c f.type ++ (if f.required then ";" else " | null;")

/-- The rows of an interface, behind an empty one. -/
def interfaceRows (r : Record) : List String :=
  "" :: ("export interface " ++ r.name ++ " \x7b") :: (r.fields.map (fieldRow c) ++ ["\x7d"])

/-- The rows of the file of some records. -/
def declarationRows (records : List Record) : List String :=
  "// Auto-generated TypeScript types from Go backend" ::
    ("// Do not edit manually - regenerate with: " ++ c.regenerateCommand) ::
      records.flatMap (interfaceRows c)

theorem fieldLine_eq (f : Field) : fieldLine c f = fieldRow c f ++ "\n" := by
  have hend : (if f.required then ";\n" else " | null;\n") =
      (if f.required then ";" else " | null;") ++ "\n" := by split <;> decide
  rw [fieldLine, hend, ← String.append_assoc, fieldRow]

theorem join_fieldLines (fields : List Field) :
    String.join (fields.map (fieldLine c)) = Lines.ended (fields.map (fieldRow c)) := by
  unfold Lines.ended
  rw [List.map_map, funext (fieldLine_eq c)]
  rfl

/-- An interface comes with the end of the line before it, and without the end of its own last
line. -/
theorem interfaceText_eq (r : Record) :
    interfaceText c r ++ "\n" = "\n" ++ Lines.ended (interfaceRows c r) := by
  unfold interfaceText interfaceRows
  rw [join_fieldLines, Lines.ended_cons, Lines.ended_cons, Lines.ended_append]
  apply String.toList_inj.1
  simp [Lines.ended]

theorem join_interfaceTexts (records : List Record) :
    String.join (records.map (interfaceText c)) ++ "\n" =
      "\n" ++ Lines.ended (records.flatMap (interfaceRows c)) := by
  -- the line end behind the last interface moves to the front, one interface at a time
  induction records with
  | nil => rfl
  | cons r records ih =>
    rw [List.map_cons, String.join_cons, String.append_assoc, ih, ← String.append_assoc,
      interfaceText_eq, List.flatMap_cons, Lines.ended_append, String.append_assoc]

/-- **The file of some records is made of its rows.** -/
theorem declarationsText_eq_ended (records : List Record) :
    declarationsText c records = Lines.ended (declarationRows c records) := by
  have hfirst : "// Auto-generated TypeScript types from Go backend\n" =
      "// Auto-generated TypeScript types from Go backend" ++ "\n" := by decide
  unfold declarationsText declarationRows
  rw [String.append_assoc, join_interfaceTexts, Lines.ended_cons, Lines.ended_cons, hfirst]
  simp only [String.append_assoc]

/-! ## Rows without line feeds -/

theorem not_mem_builtin {go s : String} (h : TypeTable.builtin.lookup go = some s) :
    '\n' ∉ s.toList := by
  have hentries : ∀ e ∈ TypeTable.builtinEntries, '\n' ∉ e.2.toList := by decide
  -- what is found is the last of the entries as they are listed
  have hlookup : Keyed.lookup go TypeTable.builtinEntries.reverse = some s := by
    rw [← Keyed.lookup_ofList]
    exact h
  exact hentries (go, s) (List.mem_reverse.1 (Keyed.mem_of_lookup hlookup))

/-- A type is written without a line feed, whether it has an entry or stands for itself. -/
theorem not_mem_fieldType {t : TypeExpr} (ht : t.Named) : '\n' ∉ (fieldType {} t).toList := by
  unfold fieldType
  split
  · next hconfigured => cases hconfigured
  · next hbuiltin => exact not_mem_builtin hbuiltin
  · exact TypeExpr.not_mem_text ht

theorem not_mem_fieldRow_iff {f : Field} (hf : f.type.Named) :
    '\n' ∉ (fieldRow {} f).toList ↔ '\n' ∉ f.serializedName.toList := by
  have hkey : fieldKey {} f = f.serializedName := if_neg fun h => Bool.false_ne_true h.2
  have hend : '\n' ∉ (if f.required then ";" else " | null;").toList := by split <;> decide
  have hfront : '\n' ∉ "  ".toList ∧ '\n' ∉ ": ".toList := by decide
  unfold fieldRow
  simp only [String.toList_append, List.mem_append, not_or, hkey, hend, hfront,
    not_mem_fieldType hf, not_false_eq_true, true_and, and_true]

theorem interfaceRows_iff {r : Record} (hr : r.Named) :
    (∀ row ∈ interfaceRows {} r, '\n' ∉ row.toList) ↔
      ∀ f ∈ r.fields, '\n' ∉ f.serializedName.toList := by
  have hempty : '\n' ∉ "".toList := by decide
  have hend : '\n' ∉ "\x7d".toList := by decide
  have hhead : '\n' ∉ ("export interface " ++ r.name ++ " \x7b").toList := by
    have hname : '\n' ∉ r.name.toList := TypeExpr.not_mem_word hr.name (by decide)
    have hfront : '\n' ∉ "export interface ".toList ∧ '\n' ∉ " \x7b".toList := by decide
    simp only [String.toList_append, List.mem_append, not_or]
    exact ⟨⟨hfront.1, hname⟩, hfront.2⟩
  unfold interfaceRows
  simp only [List.forall_mem_cons, List.forall_mem_append, List.forall_mem_map, hempty, hhead,
    hend, not_false_eq_true, true_and, List.not_mem_nil, false_imp_iff, implies_true, and_true]
  exact forall₂_congr fun f hf => not_mem_fieldRow_iff (hr.types f hf)

theorem declarationRows_iff {records : List Record} (hrecords : ∀ r ∈ records, r.Named) :
    (∀ row ∈ declarationRows {} records, '\n' ∉ row.toList) ↔
      ∀ r ∈ records, ∀ f ∈ r.fields, '\n' ∉ f.serializedName.toList := by
  have hhead : '\n' ∉ "// Auto-generated TypeScript types from Go backend".toList ∧
      '\n' ∉ ("// Do not edit manually - regenerate with: " ++
        ({} : GeneratorConfig).regenerateCommand).toList := by decide
  unfold declarationRows
  rw [List.forall_mem_cons, List.forall_mem_cons, List.forall_mem_flatMap]
  simp only [hhead, not_false_eq_true, true_and]
  exact forall₂_congr fun r hr => interfaceRows_iff (hrecords r hr)

variable {routes : RouteTable} {source : String} {x : Extraction}

/-- **There is one line for each field, unless a wire name has a line feed.** In the default settings
the file of an extracted model, split at its line feeds, is made of its rows, each split for itself,
and nothing behind the last of them; and the rows are its lines if and only if no field has a line
feed in its wire name, whatever records, fields and types there are. -/
theorem one_line_per_field_iff (hextract : extract routes source = .ok x) :
    ∃ text, generateTypes {} x = .ok text ∧
      Lines.split text = (declarationRows {} x.records).flatMap Lines.split ++ [""] ∧
      (Lines.split text = declarationRows {} x.records ++ [""] ↔
        ∀ r ∈ x.records, ∀ f ∈ r.fields, '\n' ∉ f.serializedName.toList) := by
  refine ⟨_, generateTypes_text {} x, ?_, ?_⟩
  · rw [declarationsText_eq_ended, Lines.split_ended]
  · rw [declarationsText_eq_ended, Lines.split_ended_iff,
      declarationRows_iff (named_of_extract hextract)]

/-- A struct with one field, whose tag is written with escapes. -/
def lineFile (content : String) : Go.PlainFile :=
  ⟨⟨"lines", by decide⟩, [.type ⟨"A", by decide⟩ (.struct
    [.named ⟨"X", by decide⟩ [] 0 (.name Go.intName)
      (some ⟨StructTag.interpretedOf content, StructTag.isSound_interpretedOf content⟩)])]⟩

/-- The text of such a file, with what stands between the quotes of the tag. -/
def lineText (content : String) : String :=
  "package lines\n" ++ "type A struct \x7b\n" ++ "\tX int \"" ++ content ++ "\"\n" ++ "\x7d\n"

/-- The file of a struct with one optional field has six lines. -/
theorem one_line_per_field_optional : ∃ x text,
    extract .builtin (lineText "json:\\\"a,omitempty\\\"") = .ok x ∧
      generateTypes {} x = .ok text ∧
      Lines.split text = ["// Auto-generated TypeScript types from Go backend",
        "// Do not edit manually - regenerate with: cd backend && tsgen generate", "",
        "export interface A \x7b", "  a: number | null;", "\x7d", ""] := by
  have hextract : extract .builtin (lineText "json:\\\"a,omitempty\\\"") =
      .ok (.ofFile .builtin (lineFile "json:\"a,omitempty\"").asRead) :=
    extract_plain .builtin (by decide) rfl
  obtain ⟨text, htext, -, hiff⟩ := one_line_per_field_iff hextract
  refine ⟨_, text, hextract, htext, ?_⟩
  rw [hiff.2 (by decide)]
  decide

/-- **A field stands on two lines if its tag has an escaped line feed in the name**: the key is
written as it is. -/
theorem two_lines_for_field : ∃ x text,
    extract .builtin (lineText "json:\\\"a\\nb\\\"") = .ok x ∧
      x.records = [⟨"A", [⟨"X", .named "int", "a\nb", true⟩]⟩] ∧ generateTypes {} x = .ok text ∧
      Lines.split text = ["// Auto-generated TypeScript types from Go backend",
        "// Do not edit manually - regenerate with: cd backend && tsgen generate", "",
        "export interface A \x7b", "  a", "b: number;", "\x7d", ""] ∧
      Lines.split text ≠ declarationRows {} x.records ++ [""] := by
  have hextract : extract .builtin (lineText "json:\\\"a\\nb\\\"") =
      .ok (.ofFile .builtin (lineFile "json:\"a\nb\"").asRead) :=
    extract_plain .builtin (by decide) rfl
  have hlines : Lines.split (declarationsText {} [⟨"A", [⟨"X", .named "int", "a\nb", true⟩]⟩]) =
      ["// Auto-generated TypeScript types from Go backend",
        "// Do not edit manually - regenerate with: cd backend && tsgen generate", "",
        "export interface A \x7b", "  a", "b: number;", "\x7d", ""] := by
    rw [declarationsText_eq_ended, Lines.split_ended]
    decide
  have hrecords : (Extraction.ofFile .builtin (lineFile "json:\"a\nb\"").asRead).records =
      [⟨"A", [⟨"X", .named "int", "a\nb", true⟩]⟩] := by decide
  refine ⟨_, _, hextract, hrecords, generateTypes_text {} _, ?_⟩
  rw [hrecords, hlines]
  exact ⟨rfl, by decide⟩

end SdkGen.TypeScript
