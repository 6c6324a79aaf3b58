import SdkGen.Text.Position

/-!
# Why a source is no source file

`ParseError.message` words each cause; `ParseError.pos` says where it lies.
-/

namespace SdkGen.Go

/-- Why a text is refused as a source file. -/
inductive ParseError
  /-- No construct of the language goes on with this text. -/
  | unexpectedText (near : String) (pos : Position)
  /-- A token has to stand here. -/
  | missingToken (token : String) (pos : Position)
  /-- The first node is no package clause. -/
  | missingPackage (pos : Position)
  /-- A node stands at the top of a file where only declarations may. -/
  | unexpectedNode (kind : String) (pos : Position)
  deriving DecidableEq, Repr

namespace ParseError

/-- The wording of the cause. -/
def message : ParseError → String
  | unexpectedText near _ => s!"syntax error near '{near}'"
  | missingToken token _ => s!"missing {token}"
  | missingPackage _ => "expected package clause"
  | unexpectedNode kind _ => s!"expected declaration, found {kind}"

/-- Where the cause lies. -/
def pos : ParseError → Position
  | unexpectedText _ p => p
  | missingToken _ p => p
  | missingPackage p => p
  | unexpectedNode _ p => p

end ParseError

end SdkGen.Go
