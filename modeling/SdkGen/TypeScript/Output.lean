import SdkGen.Files.FileSystem
import SdkGen.TypeScript.Sdk

/-!
# Writing generated files

A generated file is written in two steps, of which each can fail: its directory is made, and then
the file itself.

* `GeneratedFile.makeParent`: makes the directory of a file.
* `GeneratedFile.writeContents`: writes a file into a directory that exists.
* `GeneratedFile.save`: both, and how it went.
-/

namespace SdkGen.TypeScript

/-- How the writing of a file went. -/
inductive FileStatus
  | written
  | writeFailed
  | directoryFailed
  deriving DecidableEq, Repr

namespace FileStatus

/-- The name of the status. -/
def name : FileStatus → String
  | written => "written"
  | writeFailed => "write_failed"
  | directoryFailed => "directory_failed"

end FileStatus

/-- What became of a file. -/
structure Saved where
  status : FileStatus
  error : Option Error
  deriving DecidableEq, Repr

namespace GeneratedFile

/-- The directory that has to be there; none where a file goes to the working directory. -/
def directory? (f : GeneratedFile) : Option String :=
  (Path.parent f.path).filter (· ≠ "")

/-- Makes the directory of the file. -/
def makeParent (f : GeneratedFile) (fs : FileSystem) : FileSystem × Option Error :=
  match f.directory? with
  | none => (fs, none)
  | some dir =>
    let (fs', e) := fs.makeDirectories dir
    (fs', e.map fun e => .io dir e.text)

/-- Writes the file into a directory that exists. -/
def writeContents (f : GeneratedFile) (fs : FileSystem) : Except Error FileSystem :=
  (fs.write f.path f.content).mapError fun e => .io f.path e.text

/-- Makes the directory of the file and writes it. -/
def save (f : GeneratedFile) (fs : FileSystem) : FileSystem × Saved :=
  match f.makeParent fs with
  | (fs', some e) => (fs', ⟨.directoryFailed, some e⟩)
  | (fs', none) =>
    match f.writeContents fs' with
    | .ok fs'' => (fs'', ⟨.written, none⟩)
    | .error e => (fs', ⟨.writeFailed, some e⟩)

end GeneratedFile

/-- The first file of an artifact. -/
def fileOf? (files : List GeneratedFile) (artifact : Artifact) : Option GeneratedFile :=
  files.find? fun f => f.artifact = artifact

end SdkGen.TypeScript
