import SdkGen.Text.Blank
import SdkGen.Text.Occurrence

/-!
# Payload types

The type of a request or a response. `PayloadType.parse` reads it as it is configured,
`PayloadType.text` is the type written in the client.
-/

namespace SdkGen

/-- The type of a request or response body. -/
inductive PayloadType
  | void
  | any
  | named (name : String)
  | arrayOf (element : String)
  deriving DecidableEq, Repr, Inhabited

namespace PayloadType

/-- Reads a configured type: blanks around it do not count, and nothing is `any`. -/
def parse (s : String) : PayloadType :=
  let t := Blank.trim s
  if t = "void" then void
  else if t = "any" || t = "" then any
  else match Occurrence.dropSuffix ['[', ']'] t.toList with
    | some element => arrayOf (String.ofList element)
    | none => named t

/-- The type as written. -/
def text : PayloadType → String
  | void => "void"
  | any => "any"
  | named name => name
  | arrayOf element => element ++ "[]"

/-- The declared type that the payload refers to. -/
def importName : PayloadType → Option String
  | void => none
  | any => none
  | named name => some name
  | arrayOf element => some element

end PayloadType

end SdkGen
