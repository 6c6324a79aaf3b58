import SdkGen.Toml.Token

/-!
# Keys and scalars as written

* `Raw`: a key or scalar with its place.
* `Raw.faultAt`, `Raw.faultOf`: a fault of a part of it, or of the whole.
-/

namespace SdkGen.Toml

/-- A key or scalar as it is written. -/
structure Raw where
  quoting : Quoting
  chars : List Char
  span : Span
  deriving DecidableEq, Repr, Inhabited

namespace Raw

/-- Nothing, where a key or scalar has to stand. -/
def empty (span : Span) : Raw := ⟨.bare, [], span⟩

/-- Whether nothing is written. -/
def isMissing (r : Raw) : Bool := r.chars.isEmpty

/-- What is written, with the token after it. -/
def append (r : Raw) (t : Token) : Raw := ⟨r.quoting, r.chars ++ t.chars, r.span.through t.span⟩

/-- The place of a number of characters from an index on. -/
def place (r : Raw) (index count : Nat) : Span :=
  let start := r.span.start + Fault.byteLength (r.chars.take index)
  ⟨start, start + Fault.byteLength ((r.chars.drop index).take count)⟩

/-- A fault of a number of characters from an index on. -/
def faultAt (r : Raw) (index count : Nat) (text : String) (expected : List String) : Fault :=
  .expecting (r.place index count) text expected

/-- A fault of the whole. -/
def faultOf (r : Raw) (text : String) (expected : List String) : Fault :=
  .expecting r.span text expected

end Raw

end SdkGen.Toml
