import SdkGen.Report.OutputFormat
import SdkGen.Run.Input
import SdkGen.Run.Outcome

/-!
# Inspection

`inspect` prints the model of the source and writes nothing.
-/

namespace SdkGen.Run

/-- The model of the named source, or else of the configured one. -/
def inspectModel (fs : FileSystem) (source config : Option String) :
    List Event × Except Error Extraction :=
  match loadConfig fs config with
  | .error e => ([], .error e)
  | .ok c =>
    match checked { c with source := source.getD c.source } with
    | .error e => ([], .error e)
    | .ok c => readModel fs c

/-- Prints the model of the source. -/
def inspect (fs : FileSystem) (source config : Option String) (format : Report.OutputFormat)
    (colored : Bool) : Outcome :=
  match inspectModel fs source config with
  | (log, .error e) => .stopped e.exitCode (log ++ [.failure e []]) fs
  | (log, .ok x) => ⟨.ok .success, format.write colored x.toJson ++ "\n", log, fs⟩

end SdkGen.Run
