import SdkGen.CommandLine.Basic
import SdkGen.Report.OutputFormat
import SdkGen.Run.Input
import SdkGen.Run.Outcome
import SdkGen.TypeScript.Output

/-!
# Generation

`generate` writes both files of the SDK, each whatever becomes of the other, and reports on them.

* `GenerationReport`: what the report says.
* `saveAll`: writes files one after the other.
* `generateFrom`: a generation with a configuration.
* `generate`: a generation as the command line asks for it.
-/

namespace SdkGen.Run

open Json (Value)
open TypeScript (GeneratedFile FileStatus Saved)

/-- What became of one file. -/
structure FileReport where
  artifact : TypeScript.Artifact
  path : String
  bytes : Nat
  status : FileStatus
  error : Option Error
  deriving DecidableEq, Repr

namespace FileReport

/-- The report on a file. -/
def of (f : GeneratedFile) (s : Saved) : FileReport :=
  ⟨f.artifact, f.path, f.content.utf8ByteSize, s.status, s.error⟩

/-- The report's JSON form. -/
def toJson (r : FileReport) : Value :=
  .object ([("artifact", .string r.artifact.name), ("path", .string r.path),
    ("bytes", .nat r.bytes), ("status", .string r.status.name)] ++
    (r.error.map fun e => ("error", Value.string e.message)).toList)

/-- What the log says of a file that could not be written. -/
def events (r : FileReport) : List Event :=
  (r.error.map fun e => Event.failure e [("artifact", r.artifact.name)]).toList

end FileReport

/-- What a generation reports. -/
structure GenerationReport where
  source : String
  records : Nat
  endpoints : Nat
  diagnostics : Nat
  files : List FileReport
  deriving DecidableEq, Repr

namespace GenerationReport

/-- Whether every file was written. -/
def isComplete (r : GenerationReport) : Bool :=
  r.files.all fun f => f.status = .written

/-- Whether a directory could not be made. -/
def hasDirectoryFailure (r : GenerationReport) : Bool :=
  r.files.any fun f => f.status = .directoryFailed

/-- The report's JSON form. -/
def toJson (r : GenerationReport) : Value :=
  .object [("source", .string r.source), ("records", .nat r.records),
    ("endpoints", .nat r.endpoints), ("diagnostics", .nat r.diagnostics),
    ("files", .array (r.files.map FileReport.toJson))]

/-- How the generation ends. -/
def exitCode (r : GenerationReport) : ExitCode :=
  if r.hasDirectoryFailure then .outputDirectory else .success

/-- The counts that the log gives. -/
def countFields (records endpoints : Nat) : List (String × String) :=
  [("records", toString records), ("endpoints", toString endpoints)]

/-- The last words of the log. -/
def closing (r : GenerationReport) : List Event :=
  if r.hasDirectoryFailure then []
  else if r.isComplete then
    [⟨.info, "TypeScript SDK generated", countFields r.records r.endpoints⟩]
  else [⟨.warning, "TypeScript SDK generated with missing files", []⟩]

end GenerationReport

/-- Writes files one after the other. -/
def saveAll (fs : FileSystem) : List GeneratedFile → FileSystem × List FileReport
  | [] => (fs, [])
  | f :: rest =>
    let (fs', saved) := f.save fs
    let (fs'', reports) := saveAll fs' rest
    (fs'', FileReport.of f saved :: reports)

/-- The configuration of a generation: flags over the file over the defaults. -/
def resolveConfig (fs : FileSystem) (args : CommandLine.GenerateArgs) :
    Except Error GeneratorConfig := do
  checked (args.apply (← loadConfig fs args.config))

/-- What the log says before files are written. -/
def modelEvents (x : Extraction) : List Event :=
  x.diagnostics.map .finding ++
    [⟨.info, "Generating TypeScript SDK",
      GenerationReport.countFields x.records.length x.endpoints.length⟩]

/-- The report of a generation and the files that it leaves. -/
def writeSdk (fs : FileSystem) (c : GeneratorConfig) (x : Extraction) :
    Except Error (FileSystem × GenerationReport) := do
  let (fs', reports) := saveAll fs (← TypeScript.generate c x)
  return (fs', ⟨c.source, x.records.length, x.endpoints.length, x.diagnostics.length, reports⟩)

/-- A generation with a configuration. -/
def generateFrom (fs : FileSystem) (c : GeneratorConfig) (format : Report.OutputFormat)
    (colored : Bool) : Outcome :=
  match readModel fs c with
  | (log, .error e) => .stopped .badInput (log ++ [.failure e [("source", c.source)]]) fs
  | (log, .ok x) =>
    let log := log ++ modelEvents x
    match writeSdk fs c x with
    | .error e => ⟨.error e, "", log, fs⟩
    | .ok (fs', report) =>
      ⟨.ok report.exitCode, format.write colored report.toJson ++ "\n",
        log ++ report.files.flatMap FileReport.events ++ report.closing, fs'⟩

/-- A generation as the command line asks for it. -/
def generate (fs : FileSystem) (args : CommandLine.GenerateArgs) (format : Report.OutputFormat)
    (colored : Bool) : Outcome :=
  match resolveConfig fs args with
  | .error e => .stopped e.exitCode [.failure e []] fs
  | .ok c => generateFrom fs c format colored

end SdkGen.Run
