import SdkGen.Go.SourceFile.Basic
import SdkGen.Proofs.Go.Literal

/-!
# Source files in their plain spelling

Declarations that are written one to a line, structs with one field to a line and one tab more for
each depth.

* `PlainType`, `PlainField`, `PlainDeclaration`, `PlainFile`: what is written.
* `written`: the text of each.
* `asRead`: what a reader is to make of each, given where it starts.
* `appliesTypes`: where an embedded type has brackets, they cannot be taken for a length.
-/

namespace SdkGen.Go

/-- A name that is no keyword. -/
structure Name where
  text : String
  isName : IsName text.toList

/-- The digits of a decimal number. -/
structure Decimal where
  digits : List Char
  isDecimal : IsDecimal digits

/-- The literal of a field's tag. -/
structure TagLiteral where
  literal : TextLiteral
  isSound : literal.IsSound

namespace Name

/-- The name's characters. -/
def chars (n : Name) : List Char := n.text.toList

/-- Names in order, with commas between them. -/
def joined (first : Name) (more : List Name) : List Char :=
  first.chars ++ more.flatMap fun n => ',' :: ' ' :: n.chars

end Name

mutual

/-- A type. -/
inductive PlainType
  | name (n : Name)
  | qualified (package n : Name)
  | pointer (target : PlainType)
  | slice (element : PlainType)
  | array (size : Decimal) (element : PlainType)
  /-- `map[string]int` -/
  | map
  /-- `chan int` -/
  | channel
  /-- `func()` -/
  | function
  /-- `interface{}` -/
  | interface
  | generic (base : Name) (argument : PlainType)
  | struct (fields : List PlainField)

/-- A field line of a struct. -/
inductive PlainField
  /-- Names and a type, which may be wrapped in parentheses. -/
  | named (first : Name) (more : List Name) (wraps : Nat) (type : PlainType)
      (tag : Option TagLiteral)
  /-- An embedded type, perhaps behind a star, perhaps of a package. -/
  | embedded (star : Bool) (package : Option Name) (n : Name) (tag : Option TagLiteral)
  | embeddedGeneric (base : Name) (argument : PlainType) (tag : Option TagLiteral)

end

/-- A declaration at the top of a file; functions have no parameters, no results and empty
bodies. -/
inductive PlainDeclaration
  | type (n : Name) (type : PlainType)
  | function (n : Name)
  /-- A method: its receiver's name and type. -/
  | method (receiver : Name) (type : PlainType) (n : Name)

/-- A source file. -/
structure PlainFile where
  package : Name
  declarations : List PlainDeclaration

/-! ## Texts -/

/-- The tabs before a line of a depth. -/
def tabs (depth : Nat) : List Char := List.replicate depth '\t'

/-- The tag at the end of a field line. -/
def tagWritten : Option TagLiteral → List Char
  | none => []
  | some t => ' ' :: t.literal.written

/-- A name, behind its package if it has one. -/
def nameWritten (package : Option Name) (n : Name) : List Char :=
  match package with
  | none => n.chars
  | some p => p.chars ++ '.' :: n.chars

mutual

/-- A type as written; `depth` is that of the line it starts on. -/
def PlainType.written (depth : Nat) : PlainType → List Char
  | .name n => n.chars
  | .qualified p n => nameWritten (some p) n
  | .pointer t => '*' :: t.written depth
  | .slice t => '[' :: ']' :: t.written depth
  | .array size t => '[' :: (size.digits ++ ']' :: t.written depth)
  | .map => "map".toList ++ '[' :: ("string".toList ++ ']' :: "int".toList)
  | .channel => "chan".toList ++ ' ' :: "int".toList
  | .function => "func".toList ++ ['(', ')']
  | .interface => "interface".toList ++ ['{', '}']
  | .generic base t => base.chars ++ '[' :: (t.written depth ++ [']'])
  | .struct fields =>
    "struct".toList ++ ' ' :: '{' :: '\n' ::
      (fieldsWritten (depth + 1) fields ++ (tabs depth ++ ['}']))

/-- A field line as written, without its end. -/
def PlainField.written (depth : Nat) : PlainField → List Char
  | .named first more wraps t tag =>
    Name.joined first more ++ ' ' :: (List.replicate wraps '(' ++
      (t.written depth ++ (List.replicate wraps ')' ++ tagWritten tag)))
  | .embedded star package n tag =>
    (if star then ['*'] else []) ++ (nameWritten package n ++ tagWritten tag)
  | .embeddedGeneric base t tag =>
    base.chars ++ '[' :: (t.written depth ++ ']' :: tagWritten tag)

/-- Field lines as written. -/
def fieldsWritten (depth : Nat) : List PlainField → List Char
  | [] => []
  | f :: fs => tabs depth ++ (f.written depth ++ '\n' :: fieldsWritten depth fs)

end

theorem written_struct (fs : List PlainField) (depth : Nat) :
    (PlainType.struct fs).written depth = "struct".toList ++ ' ' :: '{' :: '\n' ::
      (fieldsWritten (depth + 1) fs ++ (tabs depth ++ ['}'])) := rfl

namespace PlainDeclaration

/-- A declaration as written, without the end of its last line. -/
def written : PlainDeclaration → List Char
  | type n t => "type".toList ++ ' ' :: (n.chars ++ ' ' :: t.written 0)
  | function n => "func".toList ++ ' ' :: (n.chars ++ ['(', ')', ' ', '{', '}'])
  | method receiver t n =>
    "func".toList ++ ' ' :: '(' :: (receiver.chars ++ ' ' :: (t.written 0 ++ ')' :: ' ' ::
      (n.chars ++ ['(', ')', ' ', '{', '}'])))

theorem written_type (n : Name) (t : PlainType) :
    (type n t).written = "type".toList ++ ' ' :: (n.chars ++ ' ' :: t.written 0) := rfl

theorem written_function (n : Name) :
    (function n).written = "func".toList ++ ' ' :: (n.chars ++ ['(', ')', ' ', '{', '}']) := rfl

theorem written_method (receiver : Name) (t : PlainType) (n : Name) :
    (method receiver t n).written = "func".toList ++ ' ' :: '(' :: (receiver.chars ++ ' ' ::
      (t.written 0 ++ ')' :: ' ' :: (n.chars ++ ['(', ')', ' ', '{', '}']))) := rfl

end PlainDeclaration

/-- Declarations as written, each on lines of its own. -/
def declarationsWritten : List PlainDeclaration → List Char
  | [] => []
  | d :: ds => d.written ++ '\n' :: declarationsWritten ds

namespace PlainFile

/-- A file as written. -/
def written (f : PlainFile) : List Char :=
  "package".toList ++ ' ' :: (f.package.chars ++ '\n' :: declarationsWritten f.declarations)

end PlainFile

/-! ## What is read -/

/-- The syntax of a name, behind its package if it has one. -/
def nameAsRead (package : Option Name) (n : Name) : TypeSyntax :=
  match package with
  | none => .name n.text
  | some p => .qualified p.text n.text

/-- The text of a tag, with its quotes. -/
def tagText (tag : Option TagLiteral) : Option String :=
  tag.map fun t => String.ofList t.literal.written

mutual

/-- The syntax of a type that starts at a place: parentheses and array sizes are dropped, and
arguments of generic types. -/
def PlainType.asRead (depth : Nat) (p : Position) : PlainType → TypeSyntax
  | .name n => nameAsRead none n
  | .qualified q n => nameAsRead (some q) n
  | .pointer t => .pointer (t.asRead depth (p.afterAll ['*']))
  | .slice t => .slice (t.asRead depth (p.afterAll ['[', ']']))
  | .array size t => .array (t.asRead depth (p.afterAll ('[' :: (size.digits ++ [']']))))
  | .map => .map
  | .channel => .channel
  | .function => .function
  | .interface => .interface
  | .generic base _ => .generic (nameAsRead none base)
  | .struct fields =>
    .struct (fieldsAsRead (depth + 1) (p.afterAll ("struct".toList ++ [' ', '{', '\n'])) fields)

/-- The syntax of a field line that starts at a place. -/
def PlainField.asRead (depth : Nat) (p : Position) : PlainField → FieldSyntax
  | .named first more wraps t tag =>
    .mk ((first :: more).map Name.text)
      (t.asRead depth (p.afterAll (Name.joined first more ++ ' ' :: List.replicate wraps '(')))
      (tagText tag) p
  | .embedded star package n tag =>
    .mk [] (if star then .pointer (nameAsRead package n) else nameAsRead package n) (tagText tag) p
  | .embeddedGeneric base _ tag => .mk [] (.generic (nameAsRead none base)) (tagText tag) p

/-- The syntax of field lines, the first at a place. -/
def fieldsAsRead (depth : Nat) (p : Position) : List PlainField → List FieldSyntax
  | [] => []
  | f :: fs =>
    f.asRead depth (p.afterAll (tabs depth)) ::
      fieldsAsRead depth (p.afterAll (tabs depth ++ (f.written depth ++ ['\n']))) fs

end

namespace PlainDeclaration

/-- The declaration that starts at a place; it stands where its name does. -/
def asRead (p : Position) : PlainDeclaration → Declaration
  | type n t =>
    let start := p.afterAll ("type".toList ++ [' '])
    .type n.text (t.asRead 0 (start.afterAll (n.chars ++ [' ']))) start
  | function n => .function n.text false (p.afterAll ("func".toList ++ [' ']))
  | method receiver t n =>
    .function n.text true (p.afterAll
      ("func".toList ++ ' ' :: '(' :: (receiver.chars ++ ' ' :: (t.written 0 ++ [')', ' ']))))

end PlainDeclaration

/-- The declarations, the first at a place. -/
def declarationsAsRead (p : Position) : List PlainDeclaration → List Declaration
  | [] => []
  | d :: ds => d.asRead p :: declarationsAsRead (p.afterAll (d.written ++ ['\n'])) ds

namespace PlainFile

/-- The source file that a file is to be read as. -/
def asRead (f : PlainFile) : SourceFile :=
  ⟨f.package.text, declarationsAsRead
    (Position.start.afterAll ("package".toList ++ ' ' :: (f.package.chars ++ ['\n'])))
    f.declarations⟩

end PlainFile

/-! ## Brackets behind embedded names -/

/-- The words that are operands by themselves. They are no keywords. -/
def operandWords : List String := ["new", "make", "nil", "true", "false", "iota"]

/-- A type that starts, behind its stars, with a word that is an operand. -/
def PlainType.startsOperand : PlainType → Bool
  | .name n => operandWords.contains n.text
  | .qualified package _ => operandWords.contains package.text
  | .pointer t => t.startsOperand
  | .generic base _ => operandWords.contains base.text
  | _ => false

mutual

/-- No embedded field in a type has an argument that starts with an operand: between brackets behind
the first name of a line it would be the length of an array. -/
def PlainType.appliesTypes : PlainType → Bool
  | .pointer t => t.appliesTypes
  | .slice t => t.appliesTypes
  | .array _ t => t.appliesTypes
  | .generic _ t => t.appliesTypes
  | .struct fields => fieldsApplyTypes fields
  | _ => true

/-- The same for a field line. -/
def PlainField.appliesTypes : PlainField → Bool
  | .named _ _ _ t _ => t.appliesTypes
  | .embedded .. => true
  | .embeddedGeneric _ t _ => !t.startsOperand && t.appliesTypes

/-- The same for field lines. -/
def fieldsApplyTypes : List PlainField → Bool
  | [] => true
  | f :: fs => f.appliesTypes && fieldsApplyTypes fs

end

namespace PlainDeclaration

/-- The same for a declaration. -/
def appliesTypes : PlainDeclaration → Bool
  | type _ t => t.appliesTypes
  | function _ => true
  | method _ t _ => t.appliesTypes

end PlainDeclaration

/-- The same for a whole file. -/
def PlainFile.appliesTypes (f : PlainFile) : Bool :=
  f.declarations.all PlainDeclaration.appliesTypes

end SdkGen.Go
