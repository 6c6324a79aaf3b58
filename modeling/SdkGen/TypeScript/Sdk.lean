import SdkGen.TypeScript.Client
import SdkGen.TypeScript.Declarations

/-!
# The generated SDK

* `Artifact`: the two files of an SDK.
* `GeneratedFile`: a file with the path it is meant for.
* `generate`: both files of an extraction, the declarations first.
-/

namespace SdkGen.TypeScript

open Json (Value)

/-- The files of an SDK. -/
inductive Artifact
  | types
  | client
  deriving DecidableEq, Repr

namespace Artifact

/-- The artifact's name. -/
def name : Artifact → String
  | types => "types"
  | client => "client"

end Artifact

/-- A file to be written. -/
structure GeneratedFile where
  artifact : Artifact
  path : String
  content : String
  deriving DecidableEq, Repr

namespace GeneratedFile

/-- The file's JSON form. -/
def toJson (f : GeneratedFile) : Value :=
  .object [("artifact", .string f.artifact.name), ("path", .string f.path),
    ("content", .string f.content)]

end GeneratedFile

/-- The type table of a configuration. -/
def typeTable (c : GeneratorConfig) : TypeTable := TypeTable.builtin.setAll c.types

/-- How a configuration wants records written. -/
def declarationStyle (c : GeneratorConfig) : DeclarationStyle :=
  ⟨typeTable c, c.regenerateCommand, c.fallbackToFieldName⟩

/-- How a configuration wants the client written. -/
def clientStyle (c : GeneratorConfig) : ClientStyle :=
  ⟨c.regenerateCommand, c.baseUrl, c.typesImport⟩

/-- The declaration file of an extraction. -/
def generateTypes (c : GeneratorConfig) (x : Extraction) : Except Error String :=
  (declarationStyle c).render builtinEngine x.records

/-- The client of an extraction. -/
def generateClient (c : GeneratorConfig) (x : Extraction) : Except Error String :=
  (clientStyle c).render builtinEngine x.endpoints x.records

/-- Both files of an extraction. -/
def generate (c : GeneratorConfig) (x : Extraction) : Except Error (List GeneratedFile) := do
  let types ← generateTypes c x
  let client ← generateClient c x
  return [⟨.types, c.typesOutput, types⟩, ⟨.client, c.clientOutput, client⟩]

end SdkGen.TypeScript
