import SdkGen.Json.Value

/-!
# Templates

A template is text with expressions, blocks and other templates in it. Tags keep their place in
the template's text, for error reports.

* `Path`: a reference into the data.
* `Param`, `Call`: what stands in a tag.
* `Element`: text, a tag, or a block with its contents.
-/

namespace SdkGen.Template

open Json (Value)

/-- Line and column of a tag, counted in characters from one. -/
structure Place where
  line : Nat
  column : Nat
  deriving DecidableEq, Repr, Inhabited

/-- A reference into the data. -/
structure Path where
  /-- As written. -/
  raw : String
  /-- Whether it starts at the root of the data. -/
  fromRoot : Bool
  /-- Whether it names a variable of a block. -/
  isLocal : Bool
  /-- How many blocks it goes up. -/
  ups : Nat
  names : List String
  deriving DecidableEq, Repr, Inhabited

mutual

/-- What a tag is applied to. -/
inductive Param
  | path (p : Path)
  | literal (v : Value)
  /-- A literal that writes no value. A template with one is refused. -/
  | invalid
  | call (c : Call)

/-- What stands in a tag: a head, parameters and named parameters. -/
inductive Call
  | mk (head : Param) (params : List Param) (named : List (String × Param))

end

instance : Inhabited Param := ⟨.invalid⟩

instance : Inhabited Call := ⟨.mk default [] []⟩

namespace Call

/-- What the call is of. -/
def head : Call → Param
  | mk head _ _ => head

/-- The parameters without a name. -/
def params : Call → List Param
  | mk _ params _ => params

/-- The parameters with a name. -/
def named : Call → List (String × Param)
  | mk _ _ named => named

/-- The head as written, if it is a path. -/
def name? : Call → Option String
  | mk (.path p) _ _ => some p.raw
  | mk (.literal _) _ _ => none
  | mk .invalid _ _ => none
  | mk (.call _) _ _ => none

/-- Whether the tag is a head alone. -/
def isBare (c : Call) : Bool := c.params.isEmpty && c.named.isEmpty

end Call

mutual

/-- Whether all literals in a parameter write a value. -/
def Param.isSound : Param → Bool
  | .path _ => true
  | .literal _ => true
  | .invalid => false
  | .call c => c.isSound

/-- Whether all literals in a call write a value. -/
def Call.isSound : Call → Bool
  | .mk head params named => head.isSound && paramsSound params && namedSound named

/-- Whether all literals in some parameters write a value. -/
def paramsSound : List Param → Bool
  | [] => true
  | p :: ps => p.isSound && paramsSound ps

/-- Whether all literals in some named parameters write a value. -/
def namedSound : List (String × Param) → Bool
  | [] => true
  | (_, p) :: ps => p.isSound && namedSound ps

end

/-- An element of a template. A tag is alone where nothing but blanks stands on its line. -/
inductive Element
  | text (s : List Char)
  | expression (place : Place) (c : Call)
  /-- A block with the names it gives its values, its contents, and what stands after `else`. -/
  | block (place : Place) (isAlone : Bool) (c : Call) (names : List String) (body : List Element)
      (otherwise : Option (List Element))
  /-- A decorator, with its contents if it is a block. -/
  | decorator (place : Place) (c : Call) (body : Option (List Element))
  /-- Another template, with the blanks before its tag, and with the contents of the tag if it is
  a block. -/
  | inclusion (place : Place) (isAlone : Bool) (indent : Option (List Char)) (c : Call)
      (body : Option (List Element))

end SdkGen.Template
