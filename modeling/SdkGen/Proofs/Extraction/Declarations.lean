import Mathlib.Data.List.Sort
import SdkGen.Proofs.Extraction.Imports

/-!
# What each declaration becomes

The model of a file is gathered in several passes. Declaration by declaration, and in a struct line
by line, it is what is said here, and nothing is lost, added or moved on the way.

* `LinesGive`: the fields of a struct, and what is reported of its lines.
* `DeclarationsGive`: the records and endpoints of a file, and what is reported of its declarations.
* `IsModel`: the model of a file, spelled out.
* `declarationsGive_iff`: the passes find just this.
* `extract_iff`: a file has just one model, and the extraction of a text gives it.
-/

namespace SdkGen

open Go (Declaration FieldSyntax SourceFile TypeSyntax)

/-- What the field lines of a struct become: its fields, and what is reported of the lines. -/
inductive LinesGive (record : String) : List FieldSyntax → List Field → List Diagnostic → Prop
  | nil : LinesGive record [] [] []
  /-- An embedded field is reported and left out. -/
  | embedded {line : FieldSyntax} {lines : List FieldSyntax} {fields : List Field}
      {reports : List Diagnostic} (hnames : line.names = [])
      (hrest : LinesGive record lines fields reports) :
      LinesGive record (line :: lines) fields
        (.embeddedFieldSkipped record (TypeExpr.ofSyntax line.type).text :: reports)
  /-- The JSON entry of a tag tells the wire name of the field, and whether it is required. -/
  | tagged {line : FieldSyntax} {lines : List FieldSyntax} {fields : List Field}
      {reports : List Diagnostic} {name tag : String} {more : List String}
      {entry : StructTag.JsonEntry} (hnames : line.names = name :: more)
      (htag : line.tag = some tag) (hentry : StructTag.json? tag = some entry)
      (hrest : LinesGive record lines fields reports) :
      LinesGive record (line :: lines)
        (⟨name, .ofSyntax line.type, entry.name, !entry.omitEmpty⟩ :: fields) reports
  /-- Without such an entry the field is required and reported, and its wire name is empty. -/
  | untagged {line : FieldSyntax} {lines : List FieldSyntax} {fields : List Field}
      {reports : List Diagnostic} {name : String} {more : List String}
      (hnames : line.names = name :: more)
      (htag : ∀ tag, line.tag = some tag → StructTag.json? tag = none)
      (hrest : LinesGive record lines fields reports) :
      LinesGive record (line :: lines) (⟨name, .ofSyntax line.type, "", true⟩ :: fields)
        (.missingJsonTag record name :: reports)

/-- A name that a handler may have. -/
def NamesHandler (name : String) : Prop := handlerPrefix.toList <+: name.toList

/-- What the declarations of a file become: records, endpoints, what is reported of field lines,
and what is reported of handlers. -/
inductive DeclarationsGive (routes : RouteTable) : List Declaration → List Record →
    List Endpoint → List Diagnostic → List Diagnostic → Prop
  | nil : DeclarationsGive routes [] [] [] [] []
  | struct {ds : List Declaration} {records : List Record} {endpoints : List Endpoint}
      {ofLines ofHandlers reports : List Diagnostic} {name : String} {lines : List FieldSyntax}
      {fields : List Field} {pos : Position} (hlines : LinesGive name lines fields reports)
      (hrest : DeclarationsGive routes ds records endpoints ofLines ofHandlers) :
      DeclarationsGive routes (.type name (.struct lines) pos :: ds) (⟨name, fields⟩ :: records)
        endpoints (reports ++ ofLines) ofHandlers
  | otherType {ds : List Declaration} {records : List Record} {endpoints : List Endpoint}
      {ofLines ofHandlers : List Diagnostic} {name : String} {type : TypeSyntax} {pos : Position}
      (htype : ∀ lines, type ≠ .struct lines)
      (hrest : DeclarationsGive routes ds records endpoints ofLines ofHandlers) :
      DeclarationsGive routes (.type name type pos :: ds) records endpoints ofLines ofHandlers
  | method {ds : List Declaration} {records : List Record} {endpoints : List Endpoint}
      {ofLines ofHandlers : List Diagnostic} {name : String} {pos : Position}
      (hrest : DeclarationsGive routes ds records endpoints ofLines ofHandlers) :
      DeclarationsGive routes (.function name true pos :: ds) records endpoints ofLines ofHandlers
  | helper {ds : List Declaration} {records : List Record} {endpoints : List Endpoint}
      {ofLines ofHandlers : List Diagnostic} {name : String} {pos : Position}
      (hname : ¬ NamesHandler name)
      (hrest : DeclarationsGive routes ds records endpoints ofLines ofHandlers) :
      DeclarationsGive routes (.function name false pos :: ds) records endpoints ofLines ofHandlers
  | routed {ds : List Declaration} {records : List Record} {endpoints : List Endpoint}
      {ofLines ofHandlers : List Diagnostic} {name : String} {pos : Position} {e : Endpoint}
      (hname : NamesHandler name) (hroute : routes.endpoint? name = some e)
      (hrest : DeclarationsGive routes ds records endpoints ofLines ofHandlers) :
      DeclarationsGive routes (.function name false pos :: ds) records (e :: endpoints) ofLines
        ofHandlers
  | unrouted {ds : List Declaration} {records : List Record} {endpoints : List Endpoint}
      {ofLines ofHandlers : List Diagnostic} {name : String} {pos : Position}
      (hname : NamesHandler name) (hroute : routes.endpoint? name = none)
      (hrest : DeclarationsGive routes ds records endpoints ofLines ofHandlers) :
      DeclarationsGive routes (.function name false pos :: ds) records endpoints ofLines
        (.unresolvedHandler name :: ofHandlers)

/-- The model of a file. What is reported of its field lines comes first, then what is reported of
its handlers, and last, each once and in order, the types that endpoints refer to and that are no
records. -/
inductive IsModel (routes : RouteTable) (file : SourceFile) : Extraction → Prop
  | intro {records : List Record} {endpoints : List Endpoint}
      {ofLines ofHandlers : List Diagnostic} {unknown : List String}
      (hgive : DeclarationsGive routes file.declarations records endpoints ofLines ofHandlers)
      (hunknown : ∀ n, n ∈ unknown ↔ RefersTo endpoints n ∧ ∀ r ∈ records, r.name ≠ n)
      (horder : InByteOrder unknown) :
      IsModel routes file ⟨file.package, records, endpoints,
        ofLines ++ ofHandlers ++ unknown.map .unknownImport⟩

variable {routes : RouteTable} {file : SourceFile} {x : Extraction} {records : List Record}
  {endpoints : List Endpoint} {fields : List Field} {reports ofLines ofHandlers : List Diagnostic}
  {lines : List FieldSyntax} {ds : List Declaration} {record name package : String}

/-! ## Field lines -/

theorem wireTag?_eq_some_iff {line : FieldSyntax} {entry : StructTag.JsonEntry} :
    wireTag? line = some entry ↔ ∃ tag, line.tag = some tag ∧ StructTag.json? tag = some entry :=
  Option.bind_eq_some_iff

theorem wireTag?_eq_none_iff {line : FieldSyntax} :
    wireTag? line = none ↔ ∀ tag, line.tag = some tag → StructTag.json? tag = none :=
  Option.bind_eq_none_iff

theorem fields_of_linesGive (h : LinesGive record lines fields reports) :
    fields = lines.filterMap Field.ofSyntax? ∧
      reports = lines.filterMap (fieldDiagnostic? record) := by
  induction h with
  | nil => exact ⟨rfl, rfl⟩
  | embedded hnames _ ih =>
    obtain ⟨rfl, rfl⟩ := ih
    simp [Field.ofSyntax?, fieldDiagnostic?, hnames]
  | tagged hnames htag hentry _ ih =>
    obtain ⟨rfl, rfl⟩ := ih
    have hwire := wireTag?_eq_some_iff.2 ⟨_, htag, hentry⟩
    simp [Field.ofSyntax?, fieldDiagnostic?, hnames, hwire]
  | untagged hnames htag _ ih =>
    obtain ⟨rfl, rfl⟩ := ih
    have hwire := wireTag?_eq_none_iff.2 htag
    simp [Field.ofSyntax?, fieldDiagnostic?, hnames, hwire]

/-- Every line becomes something. -/
theorem exists_linesGive (record : String) (lines : List FieldSyntax) :
    ∃ fields reports, LinesGive record lines fields reports := by
  induction lines with
  | nil => exact ⟨_, _, .nil⟩
  | cons line lines ih =>
    obtain ⟨fields, reports, hrest⟩ := ih
    cases hnames : line.names with
    | nil => exact ⟨_, _, .embedded hnames hrest⟩
    | cons name more =>
      cases hwire : wireTag? line with
      | none => exact ⟨_, _, .untagged hnames (wireTag?_eq_none_iff.1 hwire) hrest⟩
      | some entry =>
        obtain ⟨tag, htag, hentry⟩ := wireTag?_eq_some_iff.1 hwire
        exact ⟨_, _, .tagged hnames htag hentry hrest⟩

/-! ## Declarations -/

theorem namesHandler_iff :
    NamesHandler name ↔ (Occurrence.dropPrefix handlerPrefix.toList name.toList).isSome = true := by
  unfold NamesHandler
  rw [Option.isSome_iff_exists]
  constructor
  · rintro ⟨rest, hrest⟩
    exact ⟨rest, Occurrence.dropPrefix_eq_some.2 hrest.symm⟩
  · rintro ⟨rest, hrest⟩
    exact ⟨rest, (Occurrence.dropPrefix_eq_some.1 hrest).symm⟩

theorem handlersOf_function (h : NamesHandler name) (pos : Position) :
    handlersOf ⟨package, .function name false pos :: ds⟩ = name :: handlersOf ⟨package, ds⟩ :=
  List.filter_cons_of_pos (namesHandler_iff.1 h)

theorem handlersOf_helper (h : ¬ NamesHandler name) (pos : Position) :
    handlersOf ⟨package, .function name false pos :: ds⟩ = handlersOf ⟨package, ds⟩ :=
  List.filter_cons_of_neg fun hmem => h (namesHandler_iff.2 hmem)

theorem structs_otherType {type : TypeSyntax} (htype : ∀ lines, type ≠ .struct lines)
    (pos : Position) : SourceFile.structs ⟨package, .type name type pos :: ds⟩ =
      SourceFile.structs ⟨package, ds⟩ := by
  cases type with
  | struct lines => exact absurd rfl (htype lines)
  | _ => rfl

/-- What the declarations become is what the passes find. -/
theorem passes_of_declarationsGive
    (h : DeclarationsGive routes ds records endpoints ofLines ofHandlers) (package : String) :
    records = recordsOf ⟨package, ds⟩ ∧ endpoints = endpointsOf routes ⟨package, ds⟩ ∧
      ofLines = fieldDiagnostics ⟨package, ds⟩ ∧
      ofHandlers = unresolvedHandlers routes ⟨package, ds⟩ := by
  induction h with
  | nil => exact ⟨rfl, rfl, rfl, rfl⟩
  | struct hlines _ ih =>
    obtain ⟨rfl, rfl, rfl, rfl⟩ := ih
    obtain ⟨rfl, rfl⟩ := fields_of_linesGive hlines
    exact ⟨rfl, rfl, rfl, rfl⟩
  | otherType htype _ ih =>
    obtain ⟨rfl, rfl, rfl, rfl⟩ := ih
    unfold recordsOf fieldDiagnostics
    rw [structs_otherType htype]
    exact ⟨rfl, rfl, rfl, rfl⟩
  | method _ ih =>
    obtain ⟨rfl, rfl, rfl, rfl⟩ := ih
    exact ⟨rfl, rfl, rfl, rfl⟩
  | helper hname _ ih =>
    obtain ⟨rfl, rfl, rfl, rfl⟩ := ih
    unfold endpointsOf unresolvedHandlers
    rw [handlersOf_helper hname]
    exact ⟨rfl, rfl, rfl, rfl⟩
  | routed hname hroute _ ih =>
    obtain ⟨rfl, rfl, rfl, rfl⟩ := ih
    unfold endpointsOf unresolvedHandlers
    rw [handlersOf_function hname, List.filterMap_cons_some hroute,
      List.filter_cons_of_neg (by simp [hroute])]
    exact ⟨rfl, rfl, rfl, rfl⟩
  | unrouted hname hroute _ ih =>
    obtain ⟨rfl, rfl, rfl, rfl⟩ := ih
    unfold endpointsOf unresolvedHandlers
    rw [handlersOf_function hname, List.filterMap_cons_none hroute,
      List.filter_cons_of_pos (by simp [hroute])]
    exact ⟨rfl, rfl, rfl, rfl⟩

/-- Every declaration becomes something, if only nothing. -/
theorem exists_declarationsGive (routes : RouteTable) (ds : List Declaration) :
    ∃ records endpoints ofLines ofHandlers,
      DeclarationsGive routes ds records endpoints ofLines ofHandlers := by
  induction ds with
  | nil => exact ⟨_, _, _, _, .nil⟩
  | cons d ds ih =>
    obtain ⟨records, endpoints, ofLines, ofHandlers, hrest⟩ := ih
    cases d with
    | type name type pos =>
      by_cases hstruct : ∃ lines, type = .struct lines
      · obtain ⟨lines, rfl⟩ := hstruct
        obtain ⟨fields, reports, hlines⟩ := exists_linesGive name lines
        exact ⟨_, _, _, _, .struct hlines hrest⟩
      · exact ⟨_, _, _, _, .otherType (fun lines htype => hstruct ⟨lines, htype⟩) hrest⟩
    | function name receiver pos =>
      cases receiver with
      | true => exact ⟨_, _, _, _, .method hrest⟩
      | false =>
        by_cases hname : NamesHandler name
        · cases hroute : routes.endpoint? name with
          | none => exact ⟨_, _, _, _, .unrouted hname hroute hrest⟩
          | some e => exact ⟨_, _, _, _, .routed hname hroute hrest⟩
        · exact ⟨_, _, _, _, .helper hname hrest⟩

/-- **The passes over a file find what its declarations become.** -/
theorem declarationsGive_iff :
    DeclarationsGive routes file.declarations records endpoints ofLines ofHandlers ↔
      records = recordsOf file ∧ endpoints = endpointsOf routes file ∧
        ofLines = fieldDiagnostics file ∧ ofHandlers = unresolvedHandlers routes file := by
  constructor
  · intro h
    exact passes_of_declarationsGive h file.package
  · obtain ⟨rs, es, ls, hs, hgive⟩ := exists_declarationsGive routes file.declarations
    obtain ⟨hrs, hes, hls, hhs⟩ := passes_of_declarationsGive hgive file.package
    rintro ⟨rfl, rfl, rfl, rfl⟩
    -- what the declarations become is the only thing that they can become
    rw [hrs, hes, hls, hhs] at hgive
    exact hgive

/-! ## Models -/

/-- Names in order are determined by which names they are. -/
theorem inByteOrder_unique {names others : List String} (h : InByteOrder names)
    (h' : InByteOrder others) (hmem : ∀ n, n ∈ names ↔ n ∈ others) : names = others := by
  have : Std.Irrefl fun a b : String => ByteOrder.bytes a < ByteOrder.bytes b :=
    ⟨fun a => List.lt_irrefl _⟩
  have : Std.Antisymm fun a b : String => ByteOrder.bytes a < ByteOrder.bytes b :=
    ⟨fun a b hab hba => absurd hba (List.lt_asymm hab)⟩
  exact List.Pairwise.eq_of_mem_iff h h' hmem

theorem mem_unknownTypes_iff {n : String} : n ∈ unknownTypes records endpoints ↔
    RefersTo endpoints n ∧ ∀ r ∈ records, r.name ≠ n := by
  rw [mem_unknownTypes, isRecordName_iff]
  simp only [not_exists, not_and, ne_eq]

/-- **A file has one model, which is the one that the extraction makes of it.** -/
theorem isModel_iff : IsModel routes file x ↔ Extraction.ofFile routes file = x := by
  constructor
  · intro h
    cases h with
    | intro hgive hunknown horder =>
      obtain ⟨rfl, rfl, rfl, rfl⟩ := declarationsGive_iff.1 hgive
      have hnames : unknownTypes (recordsOf file) (endpointsOf routes file) = _ :=
        inByteOrder_unique (inByteOrder_unknownTypes _ _) horder fun n =>
          mem_unknownTypes_iff.trans (hunknown n).symm
      unfold Extraction.ofFile
      rw [hnames]
  · rintro rfl
    exact .intro (declarationsGive_iff.2 ⟨rfl, rfl, rfl, rfl⟩) (fun n => mem_unknownTypes_iff)
      (inByteOrder_unknownTypes _ _)

end SdkGen
