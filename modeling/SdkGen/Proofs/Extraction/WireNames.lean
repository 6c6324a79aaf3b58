import SdkGen.Proofs.Extraction.Declarations
import SdkGen.Proofs.Text.Occurrence

/-!
# Fields without a wire name

A field has no wire name where no tag gives one. Such a field is reported if its line has no JSON
entry. It is not reported if there is an entry that leaves the name out.

* `StructTag.OmitsName`: the JSON entry of a tag has no name.
* `ofValue_name_empty`: an entry has no name only if nothing but the option stands in it.
* `missingTags_of_linesGive`, `missingTags_of_declarationsGive`: the reports of the lines of a
  struct, and of all lines of a file.
* `unnamed_reported_iff`: all fields without a wire name are reported unless some entry has no name.
-/

namespace SdkGen

open Go (Declaration FieldSyntax SourceFile)
open Occurrence (splitFirst)
open StructTag (JsonEntry omitOption)
open TypeScript (fieldKey)

namespace StructTag

/-- The value of the JSON entry: what stands behind the first `json:` up to the next space, without
the quotes around it. -/
def jsonValue? (literal : String) : Option (List Char) :=
  (splitFirst ['j', 's', 'o', 'n', ':'] (unquote literal).toList).map fun parts =>
    withoutQuotes (parts.2.takeWhile (· ≠ ' '))

/-- The tag has a JSON entry, and that entry has no name: its value is empty, or it is only the
option. -/
def OmitsName (literal : String) : Prop :=
  jsonValue? literal = some [] ∨ jsonValue? literal = some omitOption

instance (literal : String) : Decidable (OmitsName literal) := inferInstanceAs (Decidable (_ ∨ _))

end StructTag

/-- A field line with a name whose tag leaves the wire name out. -/
def OmitsWireName (line : FieldSyntax) : Prop :=
  line.names ≠ [] ∧ ∃ tag ∈ line.tag, StructTag.OmitsName tag

instance (line : FieldSyntax) : Decidable (OmitsWireName line) :=
  inferInstanceAs (Decidable (_ ∧ _))

/-- The field lines of a file's structs whose tags leave the wire name out. -/
def omittingLines (file : SourceFile) : List FieldSyntax :=
  file.structs.flatMap fun s => s.2.filter fun line => OmitsWireName line

/-- The fields of a record without a wire name, each with the name of the record. -/
def unnamedOf (record : String) (fields : List Field) : List (String × String) :=
  (fields.filter fun f => f.serializedName = "").map fun f => (record, f.name)

/-- The fields without a wire name, each with the name of its record. -/
def unnamedFields (records : List Record) : List (String × String) :=
  records.flatMap fun r => unnamedOf r.name r.fields

/-- The field that is reported to have no JSON entry, with the name of its record. -/
def Diagnostic.missingTag? : Diagnostic → Option (String × String)
  | .missingJsonTag record field => some (record, field)
  | _ => none

/-- The fields that are reported to have no JSON entry, as they are reported. -/
def missingTags (diagnostics : List Diagnostic) : List (String × String) :=
  diagnostics.filterMap Diagnostic.missingTag?

variable {routes : RouteTable} {file : SourceFile} {x : Extraction} {records : List Record}
  {endpoints : List Endpoint} {fields : List Field} {reports ofLines ofHandlers : List Diagnostic}
  {lines : List FieldSyntax} {ds : List Declaration} {line : FieldSyntax} {entry : JsonEntry}
  {record name tag source : String} {more : List String}

/-! ## Entries without a name -/

/-- **An entry has no name only if its value is empty or only the option.** -/
theorem ofValue_name_empty (value : List Char) :
    (JsonEntry.ofValue value).name = "" ↔ value = [] ∨ value = omitOption := by
  unfold JsonEntry.ofValue
  cases hsplit : splitFirst omitOption value with
  | none =>
    have hother : value ≠ omitOption := by
      rintro rfl
      have hfound : splitFirst omitOption omitOption = some ([], []) := by decide
      rw [hsplit] at hfound
      cases hfound
    simp only [String.ofList_eq_empty_iff, hother, or_false]
  | some parts =>
    obtain ⟨front, back⟩ := parts
    have hvalue := Occurrence.splitFirst_eq_some hsplit
    have hlength : omitOption.length = 10 := by decide
    simp only [String.ofList_eq_empty_iff]
    constructor
    · intro hname
      obtain ⟨rfl, rfl⟩ := List.append_eq_nil_iff.1 hname
      exact .inr (by rw [hvalue, List.nil_append, List.append_nil])
    · intro h
      have hshort : value.length ≤ omitOption.length := by
        rcases h with rfl | rfl
        · exact Nat.zero_le _
        · exact Nat.le_refl _
      rw [hvalue, List.length_append, List.length_append] at hshort
      exact List.append_eq_nil_iff.2
        ⟨List.eq_nil_of_length_eq_zero (by omega), List.eq_nil_of_length_eq_zero (by omega)⟩

theorem json?_eq (literal : String) :
    StructTag.json? literal = (StructTag.jsonValue? literal).map .ofValue := by
  unfold StructTag.json? StructTag.jsonValue?
  rw [Option.map_map]
  cases splitFirst ['j', 's', 'o', 'n', ':'] (StructTag.unquote literal).toList <;> rfl

theorem omitsName_iff (hentry : StructTag.json? tag = some entry) :
    StructTag.OmitsName tag ↔ entry.name = "" := by
  rw [json?_eq] at hentry
  obtain ⟨value, hvalue, rfl⟩ := Option.map_eq_some_iff.1 hentry
  unfold StructTag.OmitsName
  rw [hvalue, Option.some_inj, Option.some_inj, ofValue_name_empty]

theorem not_omitsName (hentry : StructTag.json? tag = none) : ¬ StructTag.OmitsName tag := by
  have hvalue : StructTag.jsonValue? tag = none := by
    rw [json?_eq] at hentry
    exact Option.map_eq_none_iff.1 hentry
  unfold StructTag.OmitsName
  rw [hvalue]
  simp

/-! ## Field lines -/

theorem not_omits_embedded (hnames : line.names = []) : ¬ OmitsWireName line :=
  fun h => h.1 hnames

theorem omits_tagged (hnames : line.names = name :: more) (htag : line.tag = some tag)
    (hentry : StructTag.json? tag = some entry) : OmitsWireName line ↔ entry.name = "" := by
  unfold OmitsWireName
  simp [hnames, htag, omitsName_iff hentry]

theorem not_omits_untagged (htag : ∀ tag, line.tag = some tag → StructTag.json? tag = none) :
    ¬ OmitsWireName line := by
  rintro ⟨-, tag, hmem, homits⟩
  exact not_omitsName (htag tag hmem) homits

/-- **Of the fields of a struct without a wire name, those are reported whose lines have no JSON
entry.** -/
theorem missingTags_of_linesGive (h : LinesGive record lines fields reports) :
    (missingTags reports).Sublist (unnamedOf record fields) ∧
      (unnamedOf record fields).length =
        (missingTags reports).length + (lines.filter fun line => OmitsWireName line).length := by
  induction h with
  | nil => exact ⟨.slnil, rfl⟩
  | embedded hnames _ ih =>
    rw [List.filter_cons_of_neg (by simpa using not_omits_embedded hnames)]
    exact ih
  | @tagged line _ fields _ name _ _ entry hnames htag hentry _ ih =>
    have homits := omits_tagged hnames htag hentry
    obtain ⟨hsub, hcount⟩ := ih
    by_cases hname : entry.name = ""
    · have hunnamed : unnamedOf record
          (⟨name, .ofSyntax line.type, entry.name, !entry.omitEmpty⟩ :: fields) =
            (record, name) :: unnamedOf record fields := by
        simp [unnamedOf, hname]
      rw [hunnamed, List.filter_cons_of_pos (by simpa using homits.2 hname)]
      refine ⟨hsub.cons _, ?_⟩
      simp only [List.length_cons]
      omega
    · have hunnamed : unnamedOf record
          (⟨name, .ofSyntax line.type, entry.name, !entry.omitEmpty⟩ :: fields) =
            unnamedOf record fields := by
        simp [unnamedOf, hname]
      rw [hunnamed, List.filter_cons_of_neg (by simpa using fun h => hname (homits.1 h))]
      exact ⟨hsub, hcount⟩
  | @untagged line _ fields reports name _ hnames htag _ ih =>
    obtain ⟨hsub, hcount⟩ := ih
    have hunnamed : unnamedOf record (⟨name, .ofSyntax line.type, "", true⟩ :: fields) =
        (record, name) :: unnamedOf record fields := by
      simp [unnamedOf]
    have hreport : missingTags (.missingJsonTag record name :: reports) =
        (record, name) :: missingTags reports := rfl
    rw [hunnamed, hreport, List.filter_cons_of_neg (by simpa using not_omits_untagged htag)]
    refine ⟨hsub.cons_cons _, ?_⟩
    simp only [List.length_cons]
    omega

/-! ## Files -/

theorem missingTags_append (front back : List Diagnostic) :
    missingTags (front ++ back) = missingTags front ++ missingTags back :=
  List.filterMap_append

theorem unnamedFields_cons (r : Record) :
    unnamedFields (r :: records) = unnamedOf r.name r.fields ++ unnamedFields records :=
  List.flatMap_cons

/-- What is reported of handlers is not about fields. -/
theorem missingTags_of_declarationsGive
    (h : DeclarationsGive routes ds records endpoints ofLines ofHandlers) (package : String) :
    missingTags ofHandlers = [] ∧ (missingTags ofLines).Sublist (unnamedFields records) ∧
      (unnamedFields records).length =
        (missingTags ofLines).length + (omittingLines ⟨package, ds⟩).length := by
  induction h with
  | nil => exact ⟨rfl, .slnil, rfl⟩
  | @struct ds _ _ _ _ _ name lines _ pos hlines _ ih =>
    obtain ⟨hhandlers, hsub, hcount⟩ := ih
    obtain ⟨hsubLines, hcountLines⟩ := missingTags_of_linesGive hlines
    have hlines : omittingLines ⟨package, .type name (.struct lines) pos :: ds⟩ =
        (lines.filter fun line => OmitsWireName line) ++ omittingLines ⟨package, ds⟩ := rfl
    rw [unnamedFields_cons, missingTags_append, hlines]
    refine ⟨hhandlers, hsubLines.append hsub, ?_⟩
    simp only [List.length_append]
    omega
  | otherType htype _ ih =>
    unfold omittingLines at ih ⊢
    rw [structs_otherType htype]
    exact ih
  | method _ ih => exact ih
  | helper _ _ ih => exact ih
  | routed _ _ _ ih => exact ih
  | unrouted _ _ _ ih => exact ih

/-- The reports on missing entries of a file's model, and how many fields without a wire name are
left. -/
theorem missingTags_of_isModel (h : IsModel routes file x) :
    (missingTags x.diagnostics).Sublist (unnamedFields x.records) ∧
      (unnamedFields x.records).length =
        (missingTags x.diagnostics).length + (omittingLines file).length := by
  cases h with
  | @intro _ _ _ _ unknown hgive _ _ =>
    obtain ⟨hhandlers, hsub, hcount⟩ := missingTags_of_declarationsGive hgive file.package
    have hunknown : missingTags (unknown.map .unknownImport) = [] := by
      unfold missingTags
      rw [List.filterMap_map, List.filterMap_eq_nil_iff]
      intro n _
      rfl
    rw [missingTags_append, missingTags_append, hhandlers, hunknown, List.append_nil,
      List.append_nil]
    exact ⟨hsub, hcount⟩

theorem mem_unnamedFields {p : String × String} : p ∈ unnamedFields records ↔
    ∃ r ∈ records, ∃ f ∈ r.fields, f.serializedName = "" ∧ p = (r.name, f.name) := by
  unfold unnamedFields unnamedOf
  simp only [List.mem_flatMap, List.mem_map, List.mem_filter, decide_eq_true_eq, and_assoc,
    eq_comm (a := p)]

theorem mem_missingTags {diagnostics : List Diagnostic} {field : String} :
    (record, field) ∈ missingTags diagnostics ↔ .missingJsonTag record field ∈ diagnostics := by
  unfold missingTags
  rw [List.mem_filterMap]
  constructor
  · rintro ⟨d, hmem, hd⟩
    cases d with
    | missingJsonTag r f =>
      cases hd
      exact hmem
    | _ => cases hd
  · intro hmem
    exact ⟨_, hmem, rfl⟩

/-- A property has no key only if its field has no wire name. -/
theorem serializedName_of_fieldKey {c : GeneratorConfig} {f : Field} (h : fieldKey c f = "") :
    f.serializedName = "" := by
  unfold fieldKey at h
  split at h
  · next hfallback => exact hfallback.1
  · exact h

/-- **Every field without a wire name is reported unless the entry of some tag leaves the name
out.** The fields without a wire name are as many as the reports and those entries together. Where
there is no such entry, each property without a key in the declarations is that of a reported
field. -/
theorem unnamed_reported_iff (hextract : extract routes source = .ok x) :
    ∃ file, Go.parse source = .ok file ∧
      (unnamedFields x.records).length =
        (missingTags x.diagnostics).length + (omittingLines file).length ∧
      (((∀ r ∈ x.records, ∀ f ∈ r.fields, f.serializedName = "" →
            .missingJsonTag r.name f.name ∈ x.diagnostics) ∧
          (missingTags x.diagnostics).length = (unnamedFields x.records).length) ↔
        omittingLines file = []) ∧
      (omittingLines file = [] → ∀ c, ∀ r ∈ x.records, ∀ f ∈ r.fields, fieldKey c f = "" →
        .missingJsonTag r.name f.name ∈ x.diagnostics) := by
  obtain ⟨file, hparse, hmodel⟩ := map_ok_iff.1 hextract
  obtain ⟨hsub, hcount⟩ := missingTags_of_isModel (isModel_iff.2 hmodel)
  have hall (hnone : omittingLines file = []) : ∀ r ∈ x.records, ∀ f ∈ r.fields,
      f.serializedName = "" → .missingJsonTag r.name f.name ∈ x.diagnostics := by
    intro r hr f hf hname
    rw [hnone, List.length_nil, Nat.add_zero] at hcount
    -- as many as there are, in order: they are all
    rw [← mem_missingTags, hsub.eq_of_length hcount.symm, mem_unnamedFields]
    exact ⟨r, hr, f, hf, hname, rfl⟩
  refine ⟨file, hparse, hcount, ⟨?_, ?_⟩, ?_⟩
  · rintro ⟨-, hequal⟩
    exact List.eq_nil_of_length_eq_zero (by omega)
  · intro hnone
    refine ⟨hall hnone, ?_⟩
    rw [hcount, hnone, List.length_nil, Nat.add_zero]
  · intro hnone c r hr f hf hkey
    exact hall hnone r hr f hf (serializedName_of_fieldKey hkey)

/-- A struct with a tagged field and one without a tag. -/
def taggedFile (tag : Go.TagLiteral) : Go.PlainFile :=
  ⟨⟨"tags", by decide⟩, [.type ⟨"Tagged", by decide⟩ (.struct
    [.named ⟨"Given", by decide⟩ [] 0 (.name Go.stringName) (some tag),
      .named ⟨"Bare", by decide⟩ [] 0 (.name Go.stringName) none])]⟩

/-- The text of such a file, with what stands between the raw quotes of the tag. -/
def taggedText (content : String) : String :=
  "package tags\n" ++ "type Tagged struct \x7b\n" ++ "\tGiven string \x60" ++ content ++
    "\x60\n" ++ "\tBare string\n" ++ "\x7d\n"

/-- The tag that gives the name `given`. -/
def namingTag : Go.TagLiteral :=
  ⟨.raw "json:\"given\"".toList, fun _ hc => ne_of_mem_of_not_mem hc (by decide)⟩

/-- The tag that makes a field optional and gives it no name. -/
def omittingTag : Go.TagLiteral :=
  ⟨.raw "json:\",omitempty\"".toList, fun _ hc => ne_of_mem_of_not_mem hc (by decide)⟩

/-- Of a field with a name and one without a tag, the second is reported. -/
theorem unnamed_reported_named :
    ∃ x, extract .builtin (taggedText "json:\"given\"") = .ok x ∧
      unnamedFields x.records = [("Tagged", "Bare")] ∧ missingTags x.diagnostics = [("Tagged", "Bare")] ∧
      ∀ r ∈ x.records, ∀ f ∈ r.fields, f.serializedName = "" →
        .missingJsonTag r.name f.name ∈ x.diagnostics := by
  have hextract : extract .builtin (taggedText "json:\"given\"") =
      .ok (.ofFile .builtin (taggedFile namingTag).asRead) :=
    extract_plain .builtin (by decide) rfl
  have hmodel : unnamedFields (recordsOf (taggedFile namingTag).asRead) = [("Tagged", "Bare")] ∧
      missingTags (Extraction.ofFile .builtin (taggedFile namingTag).asRead).diagnostics =
        [("Tagged", "Bare")] := by decide
  obtain ⟨file, -, hcount, hiff, -⟩ := unnamed_reported_iff hextract
  generalize hx : Extraction.ofFile .builtin (taggedFile namingTag).asRead = x at *
  have hrecords : x.records = recordsOf (taggedFile namingTag).asRead := by rw [← hx]; rfl
  rw [hrecords, hmodel.1, hmodel.2] at hcount
  have hnone : omittingLines file = [] :=
    List.eq_nil_of_length_eq_zero (Nat.add_eq_left.1 hcount.symm)
  exact ⟨x, hextract, hrecords ▸ hmodel.1, hmodel.2, (hiff.2 hnone).1⟩

/-- **A field whose tag gives it no name has none on the wire, and nothing is reported of it.** -/
theorem unnamed_unreported_omitted :
    ∃ x, extract .builtin (taggedText "json:\",omitempty\"") = .ok x ∧
      (∃ r ∈ x.records, ∃ f ∈ r.fields, f.serializedName = "" ∧
        .missingJsonTag r.name f.name ∉ x.diagnostics) ∧
      unnamedFields x.records = [("Tagged", "Given"), ("Tagged", "Bare")] ∧
      missingTags x.diagnostics = [("Tagged", "Bare")] := by
  refine ⟨_, extract_plain (f := taggedFile omittingTag) .builtin (by decide) rfl, ?_, by decide,
    by decide⟩
  exact ⟨⟨"Tagged", [⟨"Given", .named "string", "", false⟩, ⟨"Bare", .named "string", "", true⟩]⟩,
    by decide, ⟨"Given", .named "string", "", false⟩, by decide, rfl, by decide⟩

end SdkGen
