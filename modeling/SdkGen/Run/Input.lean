import SdkGen.Config.Decode
import SdkGen.Extraction.Extract
import SdkGen.Files.FileSystem
import SdkGen.Run.Log

/-!
# The input of a run

* `loadConfig`: the configuration that is named, or else that of the working directory.
* `readModel`: the model of the configured source, with what the log says of it.
-/

namespace SdkGen.Run

/-- The configuration file of a directory that has one. -/
def configPath : String := "./tsgen.toml"

/-- The configuration in a file. -/
def configAt (fs : FileSystem) (path : String) : Except Error GeneratorConfig := do
  let document ← (fs.read path).mapError fun e => .io path e.text
  (GeneratorConfig.parse document).mapError ConfigFault.toError

/-- The configuration that is named, which must be there, or else that of the working directory,
which need not. -/
def loadConfig (fs : FileSystem) (path : Option String) : Except Error GeneratorConfig :=
  match path with
  | some p => configAt fs p
  | none => if fs.isFile configPath then configAt fs configPath else .ok {}

/-- A configuration that is used only if it is valid. -/
def checked (c : GeneratorConfig) : Except Error GeneratorConfig :=
  c.validate.mapError ConfigFault.toError

/-- The model of the configured source. -/
def readModel (fs : FileSystem) (c : GeneratorConfig) : List Event × Except Error Extraction :=
  match RouteTable.withOverrides c.routes with
  | .error f => ([], .error f.toError)
  | .ok routes =>
    match fs.read c.source with
    | .error e => ([], .error (.io c.source e.text))
    | .ok source =>
      ([.opened c.source], (extract routes source).mapError Go.ParseError.toError)

end SdkGen.Run
