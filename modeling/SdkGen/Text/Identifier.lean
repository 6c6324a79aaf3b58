import SdkGen.Text.Identifier.Table

/-!
# Identifier characters

`Identifier.isStart` and `Identifier.isContinue` decide the Unicode properties `XID_Start` and
`XID_Continue`; ASCII is answered without the tables.
-/

namespace SdkGen.Identifier

/-- Letters that may start an identifier; the underscore is not one of them. -/
def isStart (c : Char) : Bool :=
  if c.toNat < 128 then c.isAlpha else startRanges.holds c.toNat

/-- Characters that may follow in an identifier. -/
def isContinue (c : Char) : Bool :=
  if c.toNat < 128 then c.isAlphanum || c == '_' else continueRanges.holds c.toNat

end SdkGen.Identifier
