import SdkGen.Go.Grammar
import SdkGen.Go.Reading

/-!
# Acceptance of a whole text

* `trees?`: the trees of a text that the grammar takes to its end.
-/

namespace SdkGen.Go

/-- A bound on the depth of reading a text, well above what any text needs. -/
def depthBound (cs : List Char) : Nat := 400 * (cs.length + 2)

/-- The trees of a text that the grammar takes to its end. -/
def trees? (cs : List Char) : Option (List Tree) :=
  match Rule.read grammar (depthBound cs) sourceFile (Cursor.ofChars cs) with
  | .matched ts c => if (skipBlanks true c).rest.isEmpty then some ts else none
  | _ => none

end SdkGen.Go
