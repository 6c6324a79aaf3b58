import SdkGen.Text.Position

/-!
# Source files

What a Go source file declares at its top: types with their whole structure, and functions by
name.

* `TypeSyntax`, `FieldSyntax`: types as written, and the field lines of structs.
* `Declaration`: a type or a function.
* `SourceFile`: the package name and the declarations in source order.
-/

namespace SdkGen.Go

mutual

/-- A type as it is written. -/
inductive TypeSyntax
  | name (name : String)
  | qualified (package name : String)
  | pointer (target : TypeSyntax)
  | slice (element : TypeSyntax)
  | array (element : TypeSyntax)
  | map
  | channel
  | function
  | interface
  /-- A type applied to arguments, which are not kept. -/
  | generic (base : TypeSyntax)
  | struct (fields : List FieldSyntax)
  /-- Any other syntax, by the name of its kind. -/
  | other (kind : String)

/-- A field line of a struct: its names, none for an embedded field, its type, its tag as
written with its quotes, and where its first token stands. -/
inductive FieldSyntax
  | mk (names : List String) (type : TypeSyntax) (tag : Option String) (pos : Position)

end

namespace FieldSyntax

def names : FieldSyntax → List String
  | mk names _ _ _ => names

def type : FieldSyntax → TypeSyntax
  | mk _ type _ _ => type

def tag : FieldSyntax → Option String
  | mk _ _ tag _ => tag

def pos : FieldSyntax → Position
  | mk _ _ _ pos => pos

/-- A field line without names embeds its type. -/
def isEmbedded (f : FieldSyntax) : Bool := f.names.isEmpty

end FieldSyntax

/-- A declaration at the top of a file. -/
inductive Declaration
  /-- A declared type, and where its name stands. -/
  | type (name : String) (type : TypeSyntax) (pos : Position)
  /-- A function, with a receiver or not, and where its name stands. -/
  | function (name : String) (receiver : Bool) (pos : Position)

/-- What a source file declares. -/
structure SourceFile where
  package : String
  declarations : List Declaration

namespace SourceFile

/-- The declared structs with their field lines, in source order. -/
def structs (f : SourceFile) : List (String × List FieldSyntax) :=
  f.declarations.filterMap fun
    | .type name (.struct fields) _ => some (name, fields)
    | _ => none

/-- The names of the functions without receiver, in source order. -/
def functions (f : SourceFile) : List String :=
  f.declarations.filterMap fun
    | .function name false _ => some name
    | _ => none

end SourceFile

end SdkGen.Go
