import SdkGen.Text.Occurrence

/-!
# Route paths in the client

A route path is text with parameters in it: a colon and an identifier.

* `PathPiece.split`: the pieces of a path.
* `pathParams`: the names of the parameters, in order.
* `pathExpression`: the expression of the request URL.
-/

namespace SdkGen.TypeScript

/-- A character of a path, or a parameter. -/
inductive PathPiece
  | char (c : Char)
  | param (name : List Char)
  deriving DecidableEq, Repr

/-- A character that may start a parameter's name. -/
def isNameStart (c : Char) : Bool := c.isAlpha || c = '_'

/-- A character that may follow in a parameter's name. -/
def isNameChar (c : Char) : Bool := c.isAlphanum || c = '_'

namespace PathPiece

/-- The pieces of a path; the number counts the characters of a parameter's name that are still
to be passed. -/
def splitFrom : Nat → List Char → List PathPiece
  | _, [] => []
  | k + 1, _ :: r => splitFrom k r
  | 0, c :: r =>
    let name := r.takeWhile isNameChar
    if c = ':' && name.head?.any isNameStart then param name :: splitFrom name.length r
    else char c :: splitFrom 0 r

/-- The pieces of a path. -/
def split (path : String) : List PathPiece := splitFrom 0 path.toList

/-- The parameter's name. -/
def name? : PathPiece → Option String
  | char _ => none
  | param name => some (String.ofList name)

end PathPiece

/-- The names of a path's parameters, in order and with repetitions. -/
def pathParams (path : String) : List String :=
  (PathPiece.split path).filterMap PathPiece.name?

/-- Text between single quotes: backslash and quote are escaped. -/
def escapeQuoted : List Char → List Char
  | [] => []
  | c :: r =>
    if c = '\\' || c = '\'' then '\\' :: c :: escapeQuoted r else c :: escapeQuoted r

/-- A string literal in single quotes. -/
def stringLiteral (s : String) : String :=
  "'" ++ String.ofList (escapeQuoted s.toList) ++ "'"

/-- What a parameter becomes in a template literal. -/
def interpolation (name : List Char) : List Char :=
  "$\x7bencodeURIComponent(String(".toList ++ name ++ "))\x7d".toList

/-- A piece inside a template literal. -/
def PathPiece.substituted : PathPiece → List Char
  | char c => [c]
  | param name => interpolation name

/-- Text between backquotes: backslash, backquote and the start of a substitution are escaped, one
after the other. -/
def escapeTemplate (cs : List Char) : List Char :=
  let backslashes := Occurrence.replace ['\\'] ['\\', '\\'] cs
  let backquotes := Occurrence.replace ['\x60'] ['\\', '\x60'] backslashes
  Occurrence.replace ['$', '{'] ['\\', '$', '{'] backquotes

/-- The expression of a request URL: a string literal without parameters, else a template literal
in which they are substituted. -/
def pathExpression (path : String) : String :=
  if (PathPiece.split path).any fun p => p.name?.isSome then
    let pieces := PathPiece.splitFrom 0 (escapeTemplate path.toList)
    String.ofList ('\x60' :: pieces.flatMap PathPiece.substituted ++ ['\x60'])
  else stringLiteral path

end SdkGen.TypeScript
