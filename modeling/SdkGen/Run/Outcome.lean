import SdkGen.Files.FileSystem
import SdkGen.Run.Log

/-!
# Outcomes

What a run leaves behind: how it ends, what it prints and logs, and the files.
-/

namespace SdkGen.Run

/-- What a run leaves behind. It ends with a code, or with an error that no code stands for. -/
structure Outcome where
  result : Except Error ExitCode
  output : String
  log : List Event
  files : FileSystem

/-- A run that ends before it prints anything. -/
def Outcome.stopped (exit : ExitCode) (log : List Event) (files : FileSystem) : Outcome :=
  ⟨.ok exit, "", log, files⟩

end SdkGen.Run
