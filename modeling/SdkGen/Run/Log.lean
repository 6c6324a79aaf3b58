import SdkGen.Model.Diagnostic
import SdkGen.Error

/-!
# The log of a run

An event has a level, a message and named fields, whose values are texts.
-/

namespace SdkGen.Run

/-- How much an event matters. -/
inductive Level
  | info
  | warning
  | error
  deriving DecidableEq, Repr

namespace Level

/-- The name of the level. -/
def name : Level → String
  | info => "INFO"
  | warning => "WARN"
  | error => "ERROR"

end Level

/-- Something that a run tells. -/
structure Event where
  level : Level
  message : String
  fields : List (String × String) := []
  deriving DecidableEq, Repr

namespace Event

/-- The event as a line of the log. -/
def line (e : Event) : String :=
  " ".intercalate (e.level.name :: e.message :: e.fields.map fun (name, value) =>
    s!"{name}={value}")

/-- A source file has been opened. -/
def opened (path : String) : Event := ⟨.info, "Parsing Go source", [("path", path)]⟩

/-- A finding about the source. -/
def finding (d : Diagnostic) : Event := ⟨.warning, d.message, [("kind", d.kind)]⟩

/-- An error, with what it is about. -/
def failure (e : Error) (fields : List (String × String)) : Event := ⟨.error, e.message, fields⟩

end Event

end SdkGen.Run
