import SdkGen.Go.SourceFile.Basic
import SdkGen.Model.Extraction
import SdkGen.Extraction.StructTag

/-!
# Records of a source file

* `TypeExpr.ofSyntax`: what the model keeps of a written type.
* `Record.ofFields`: the record of a struct.
* `fieldDiagnostics`: what is odd about the fields of a struct.
-/

namespace SdkGen

open Go (TypeSyntax FieldSyntax SourceFile)

/-- What the model keeps of a written type. -/
def TypeExpr.ofSyntax : TypeSyntax → TypeExpr
  | .name name => .named name
  | .qualified package name => .qualified package name
  | .pointer target => .pointer (ofSyntax target)
  | .slice element => .array (ofSyntax element)
  | .array element => .array (ofSyntax element)
  | .map => .unsupported
  | .channel => .unsupported
  | .function => .unsupported
  | .interface => .unsupported
  | .generic _ => .unsupported
  | .struct _ => .unsupported
  | .other _ => .unsupported

/-- The JSON entry of a field's tag. -/
def wireTag? (f : FieldSyntax) : Option StructTag.JsonEntry :=
  f.tag.bind StructTag.json?

/-- The field of a field line, named by its first name; an embedded field gives none. -/
def Field.ofSyntax? (f : FieldSyntax) : Option Field :=
  f.names.head?.map fun name =>
    match wireTag? f with
    | some entry => ⟨name, .ofSyntax f.type, entry.name, !entry.omitEmpty⟩
    | none => ⟨name, .ofSyntax f.type, "", true⟩

/-- The record of a struct. -/
def Record.ofFields (name : String) (fields : List FieldSyntax) : Record :=
  ⟨name, fields.filterMap Field.ofSyntax?⟩

/-- What is odd about a field line: it is embedded, or it has no JSON entry. -/
def fieldDiagnostic? (record : String) (f : FieldSyntax) : Option Diagnostic :=
  match f.names.head? with
  | none => some (.embeddedFieldSkipped record (TypeExpr.ofSyntax f.type).text)
  | some name =>
    if (wireTag? f).isNone then some (.missingJsonTag record name) else none

/-- The records of a file, in source order. -/
def recordsOf (file : SourceFile) : List Record :=
  file.structs.map fun s => .ofFields s.1 s.2

/-- What is odd about the fields of a file's structs, in source order. -/
def fieldDiagnostics (file : SourceFile) : List Diagnostic :=
  file.structs.flatMap fun s => s.2.filterMap (fieldDiagnostic? s.1)

end SdkGen
