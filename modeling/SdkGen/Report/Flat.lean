import SdkGen.Json.Printer
import SdkGen.Text.Blank

/-!
# Flat text

A value as lines `path = scalar`, one for each scalar in it, in document order. The path of a
scalar joins the keys and indices that lead to it with dots.

* `leaves`: the scalars of a value with their paths.
* `flatText`: the lines.
-/

namespace SdkGen.Report

open Json (Value)

/-- The path of a part. -/
def childPath (path key : String) : String :=
  if path = "" then key else path ++ "." ++ key

/-- The text of a scalar. -/
def scalarText : Value → String
  | .string s => s
  | v => v.compact

mutual

/-- The scalars of a value with their paths. -/
def leaves (path : String) : Value → List (String × Value)
  | .array items => itemLeaves path 0 items
  | .object members => memberLeaves path members
  | .null => [(path, .null)]
  | .bool b => [(path, .bool b)]
  | .number n => [(path, .number n)]
  | .string s => [(path, .string s)]

/-- The scalars of an array's items from an index on. -/
def itemLeaves (path : String) (i : Nat) : List Value → List (String × Value)
  | [] => []
  | v :: vs => leaves (childPath path (toString i)) v ++ itemLeaves path (i + 1) vs

/-- The scalars of an object's members. -/
def memberLeaves (path : String) : List (String × Value) → List (String × Value)
  | [] => []
  | (k, v) :: ms => leaves (childPath path k) v ++ memberLeaves path ms

end

/-- The line of a scalar. -/
def leafLine (leaf : String × Value) : String :=
  leaf.1 ++ " = " ++ scalarText leaf.2 ++ "\n"

/-- The lines of a value, without blanks at the end. -/
def flatText (v : Value) : String :=
  Blank.trimEnd (String.join ((leaves "" v).map leafLine))

end SdkGen.Report
