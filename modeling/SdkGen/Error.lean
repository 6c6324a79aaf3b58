/-!
# Errors

An error is one of five kinds with its text. `Error.message` is what the user reads, and
`Error.exitCode` is how the program ends with it.

* `ExitCode`: the codes that the program ends with.
-/

namespace SdkGen

/-- What went wrong, by the part that is at fault. -/
inductive Error
  /-- The source text, at a line and column. -/
  | parse (line column : Nat) (text : String)
  /-- The configuration. -/
  | config (text : String)
  /-- A template. -/
  | template (text : String)
  /-- A file or directory. -/
  | io (path text : String)
  /-- An argument. -/
  | invalidArgument (text : String)
  deriving DecidableEq, Repr, Inhabited

/-- The code that a program ends with. -/
structure ExitCode where
  code : Int
  deriving DecidableEq, Repr, Inhabited

namespace ExitCode

/-- All went well. -/
def success : ExitCode := ⟨0⟩

/-- A failure of the program itself. -/
def failure : ExitCode := ⟨1⟩

/-- Input that cannot be used. -/
def badInput : ExitCode := ⟨2⟩

/-- An output directory that cannot be made. -/
def outputDirectory : ExitCode := ⟨3⟩

/-- Whether the code says that all went well. -/
def isSuccess (e : ExitCode) : Bool := e.code = 0

/-- The code in decimal. -/
def text (e : ExitCode) : String := toString e.code

end ExitCode

namespace Error

/-- What the user reads. -/
def message : Error → String
  | parse line column text => s!"parse error at {line}:{column}: {text}"
  | config text => s!"Configuration error: {text}"
  | template text => s!"Template error: {text}"
  | io path text => s!"I/O error on {path}: {text}"
  | invalidArgument text => s!"Invalid argument: {text}"

/-- Whether the input is at fault: the source, the configuration or an argument. -/
def isInput : Error → Bool
  | parse _ _ _ => true
  | config _ => true
  | invalidArgument _ => true
  | template _ => false
  | io _ _ => false

/-- Whether a file or directory is at fault. -/
def isIo : Error → Bool
  | io _ _ => true
  | parse _ _ _ => false
  | config _ => false
  | invalidArgument _ => false
  | template _ => false

/-- How the program ends with the error. -/
def exitCode (e : Error) : ExitCode :=
  if e.isInput || e.isIo then .badInput else .failure

end Error

end SdkGen
