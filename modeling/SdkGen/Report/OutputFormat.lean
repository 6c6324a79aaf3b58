import SdkGen.Error
import SdkGen.Report.Outline
import SdkGen.Text.Lowercase

/-!
# Output formats

`OutputFormat.parse` reads the name of a format in any case, and `OutputFormat.write` writes a
value in it. JSON keeps the order of members; the other formats sort them.
-/

namespace SdkGen.Report

open Json (Value)

/-- How a command writes its report. -/
inductive OutputFormat
  | json
  | text
  | pretty
  deriving DecidableEq, Repr

namespace OutputFormat

/-- The format of a command that is told none. -/
def default : OutputFormat := pretty

/-- The format's name. -/
def name : OutputFormat → String
  | json => "json"
  | text => "text"
  | pretty => "pretty"

/-- The format of a name, in any case. -/
def parse (s : String) : Except Error OutputFormat :=
  match [json, text, pretty].find? fun f => f.name = Lowercase.ofString s with
  | some f => .ok f
  | none => .error (.invalidArgument
      s!"invalid output format: '{s}' (expected: json, text, or pretty)")

/-- A value in the format. -/
def write (f : OutputFormat) (colored : Bool) (v : Value) : String :=
  match f with
  | json => v.pretty
  | text => flatText v.sorted
  | pretty => outline colored v.sorted

end OutputFormat

end SdkGen.Report
