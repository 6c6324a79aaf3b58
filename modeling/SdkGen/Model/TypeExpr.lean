/-!
# Type expressions

What the model keeps of a field's type. `TypeExpr.text` is its textual encoding, by which type
tables are keyed.
-/

namespace SdkGen

/-- A field's type, as far as the model tells types apart. -/
inductive TypeExpr
  | named (name : String)
  | pointer (target : TypeExpr)
  /-- A slice or an array. -/
  | array (element : TypeExpr)
  | qualified (package name : String)
  /-- Any other type. -/
  | unsupported
  deriving DecidableEq, Repr, Inhabited

namespace TypeExpr

/-- The textual encoding: a star for a pointer, brackets for an array, a dot after a package. -/
def text : TypeExpr → String
  | named name => name
  | pointer target => "*" ++ target.text
  | array element => "[]" ++ element.text
  | qualified package name => package ++ "." ++ name
  | unsupported => "any"

end TypeExpr

end SdkGen
