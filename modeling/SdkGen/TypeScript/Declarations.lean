import SdkGen.Model.Extraction
import SdkGen.TypeScript.Templates
import SdkGen.TypeScript.TypeTable

/-!
# Type declarations

The declaration file has one interface per record and one line per field.

* `DeclarationStyle`: how records are written.
* `DeclarationStyle.data`: what the template is filled with.
* `DeclarationStyle.render`: the file.
-/

namespace SdkGen.TypeScript

open Json (Value)

/-- How records are written. -/
structure DeclarationStyle where
  types : TypeTable
  regenerateCommand : String
  /-- Whether a field without a wire name keeps its own. -/
  fallbackToFieldName : Bool

namespace DeclarationStyle

/-- The key of a field. -/
def key (st : DeclarationStyle) (f : Field) : String :=
  if f.serializedName = "" && st.fallbackToFieldName then f.name else f.serializedName

/-- What the template is told of a field. -/
def fieldData (st : DeclarationStyle) (f : Field) : Value :=
  .object [("key", .string (st.key f)), ("ts_type", .string (st.types.map f.type)),
    ("required", .bool f.required)]

/-- What the template is told of a record. -/
def recordData (st : DeclarationStyle) (r : Record) : Value :=
  .object [("name", .string r.name), ("fields", .array (r.fields.map st.fieldData))]

/-- What the template is filled with. -/
def data (st : DeclarationStyle) (records : List Record) : Value :=
  .object [("regenerate_command", .string st.regenerateCommand),
    ("records", .array (records.map st.recordData))]

/-- The declaration file of some records. -/
def render (st : DeclarationStyle) (e : Template.Engine) (records : List Record) :
    Except Error String :=
  renderTemplate e declarationsName (st.data records)

end DeclarationStyle

end SdkGen.TypeScript
