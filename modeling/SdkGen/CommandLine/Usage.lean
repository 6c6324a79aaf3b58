import SdkGen.Error

/-!
# Usage faults

What ends the reading of a command line: a fault in it, or the wish to see help or version.
-/

namespace SdkGen.CommandLine

/-- Why no command is run. -/
inductive UsageFault
  | displayHelp
  | displayVersion
  | unknownArgument
  | invalidValue
  | tooManyValues
  | argumentConflict
  | missingRequiredArgument
  | invalidSubcommand
  deriving DecidableEq, Repr, Inhabited

namespace UsageFault

/-- The name of the fault. -/
def name : UsageFault → String
  | displayHelp => "DisplayHelp"
  | displayVersion => "DisplayVersion"
  | unknownArgument => "UnknownArgument"
  | invalidValue => "InvalidValue"
  | tooManyValues => "TooManyValues"
  | argumentConflict => "ArgumentConflict"
  | missingRequiredArgument => "MissingRequiredArgument"
  | invalidSubcommand => "InvalidSubcommand"

/-- How the program ends with the fault. -/
def exitCode : UsageFault → ExitCode
  | displayHelp => .success
  | displayVersion => .success
  | _ => .badInput

end UsageFault

end SdkGen.CommandLine
