import SdkGen.CommandLine.Parse
import SdkGen.Run.Request

/-!
# The program

The program forms a picture of the files that a command uses, runs the command on the picture, and
writes the files that are different afterwards.

* `observe`: adds to a picture what is found along a path.
* `commit`: writes the files in which two pictures differ.
* `execute`: one command, from the picture to the exit code.
-/

namespace SdkGen.Program

/-- A picture with nothing but the working directory. -/
def blankPicture (here : String) : FileSystem :=
  { (FileSystem.makeDirectories ⟨.emptyDirectory, []⟩ here).1 with
    here := (Path.pieces here).drop 1 }

/-- Adds to a picture the directory or file that is found at a path. -/
def observePath (fs : FileSystem) (path : String) : IO FileSystem := do
  try
    let found ← IO.FS.realPath path
    if ← found.isDir then return (fs.makeDirectories path).1
    else return (fs.writeBytes path (← IO.FS.readBinFile path)).toOption.getD fs
  catch _ => return fs

/-- Adds to a picture what is found along a path. -/
def observe (fs : FileSystem) (path : String) : IO FileSystem :=
  (Path.ancestors path).reverse.foldlM observePath fs

/-- Writes the files in which two pictures differ. -/
def commit (before after : FileSystem) : IO Unit := do
  let old := before.root.files []
  for (place, bytes) in after.root.files [] do
    unless old.any fun (p, b) => p = place && b.data = bytes.data do
      IO.FS.createDirAll ("/" ++ "/".intercalate place.dropLast)
      IO.FS.writeBinFile ("/" ++ "/".intercalate place) bytes

/-- Whether a variable of the environment is set to something other than zero. -/
def isSet (name : String) : IO Bool := do
  return (← IO.getEnv name).any (· ≠ "0")

/-- Whether reports are coloured: as the environment says, or else on a terminal. -/
def wantsColor : IO Bool := do
  if ← isSet "CLICOLOR_FORCE" then return true
  else if (← IO.getEnv "NO_COLOR").isSome then return false
  else return (← IO.getEnv "CLICOLOR") ≠ some "0" && (← (← IO.getStdout).isTty)

/-- The number that the system is given for an exit code. -/
def status (e : ExitCode) : UInt32 := UInt32.ofNat (e.code % 256).toNat

/-- One command, from the picture to the exit code. -/
def execute (command : CommandLine.Command) (format : Report.OutputFormat) : IO UInt32 := do
  let here ← IO.currentDir
  let known ← observe (blankPicture here.toString) (Run.configFile command)
  let before ← (Run.paths known command).foldlM observe known
  let outcome := Run.run before format (← wantsColor) command
  for event in outcome.log do
    IO.eprintln event.line
  commit before outcome.files
  IO.print outcome.output
  match outcome.result with
  | .ok exit => return status exit
  | .error e =>
    IO.eprintln s!"Error: {e.message}"
    return status .failure

end SdkGen.Program

open SdkGen in
/-- Reads the command line and runs its command. -/
def main (args : List String) : IO UInt32 := do
  match CommandLine.parse args with
  | .error fault =>
    IO.eprintln fault.name
    return Program.status fault.exitCode
  | .ok invocation =>
    match Report.OutputFormat.parse invocation.format with
    | .error e =>
      IO.eprintln s!"Error: {e.message}"
      return Program.status .failure
    | .ok format => Program.execute (invocation.command.getD .default) format
