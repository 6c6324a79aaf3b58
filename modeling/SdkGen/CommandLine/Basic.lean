import SdkGen.Config.Basic

/-!
# Commands

* `GenerateArgs`: the settings of a generation that the command line gives.
* `Command`: what the program is told to do.
* `Invocation`: a command with the settings that every command has.
-/

namespace SdkGen.CommandLine

/-- The settings of a generation that the command line gives. -/
structure GenerateArgs where
  source : Option String := none
  typesOut : Option String := none
  clientOut : Option String := none
  baseUrl : Option String := none
  /-- The configuration file. -/
  config : Option String := none
  deriving DecidableEq, Repr, Inhabited

/-- A configuration with the settings of the command line in place of its own. -/
def GenerateArgs.apply (a : GenerateArgs) (c : GeneratorConfig) : GeneratorConfig :=
  { c with
    source := a.source.getD c.source
    typesOutput := a.typesOut.getD c.typesOutput
    clientOutput := a.clientOut.getD c.clientOutput
    baseUrl := a.baseUrl.getD c.baseUrl }

/-- The shells for which completions can be written. -/
inductive Shell
  | bash
  | elvish
  | fish
  | powershell
  | zsh
  deriving DecidableEq, Repr

namespace Shell

/-- The name of the shell. -/
def name : Shell → String
  | bash => "bash"
  | elvish => "elvish"
  | fish => "fish"
  | powershell => "powershell"
  | zsh => "zsh"

/-- The shell of that name. -/
def parse? (s : String) : Option Shell :=
  [bash, elvish, fish, powershell, zsh].find? fun shell => shell.name = s

end Shell

/-- What the program is told to do. -/
inductive Command
  | generate (args : GenerateArgs)
  | inspect (source config : Option String)
  | completions (shell : Shell)
  deriving DecidableEq, Repr

namespace Command

/-- The command of a command line that names none. -/
def default : Command := generate {}

/-- The command's name. -/
def name : Command → String
  | generate _ => "generate"
  | inspect _ _ => "inspect"
  | completions _ => "completions"

end Command

/-- A command line that has been read. -/
structure Invocation where
  verbose : Bool
  /-- The output format as it was given. -/
  format : String
  /-- The command, if one was named. -/
  command : Option Command
  deriving DecidableEq, Repr

end SdkGen.CommandLine
