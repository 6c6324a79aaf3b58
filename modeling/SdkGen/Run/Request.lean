import SdkGen.Run.Generate
import SdkGen.Run.Inspect

/-!
# Requests

A command is run in a tree of files. Of these files it uses few, and which ones its configuration
tells.

* `run`: what a command leaves behind.
* `configFile`, `paths`: the paths that a command uses.
-/

namespace SdkGen.Run

open CommandLine (Command)

/-- What a command leaves behind. Completions are not written. -/
def run (fs : FileSystem) (format : Report.OutputFormat) (colored : Bool) : Command → Outcome
  | .generate args => generate fs args format colored
  | .inspect source config => inspect fs source config format colored
  | .completions shell =>
    ⟨.error (.invalidArgument s!"no completions for {shell.name}"), "", [], fs⟩

/-- The configuration file that a command looks for. -/
def configFile : Command → String
  | .generate args => args.config.getD configPath
  | .inspect _ config => config.getD configPath
  | .completions _ => configPath

/-- The paths that a command uses besides its configuration file. -/
def paths (fs : FileSystem) : Command → List String
  | .generate args =>
    match resolveConfig fs args with
    | .ok c => [c.source, c.typesOutput, c.clientOutput]
    | .error _ => []
  | .inspect source config =>
    match loadConfig fs config with
    | .ok c => [source.getD c.source]
    | .error _ => []
  | .completions _ => []

end SdkGen.Run
