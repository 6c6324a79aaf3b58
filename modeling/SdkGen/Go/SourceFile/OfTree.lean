import SdkGen.Go.SourceFile.Basic
import SdkGen.Go.Tree

/-!
# From trees to declarations

* `TypeSyntax.ofTree?`: the type that a tree of the grammar stands for.
* `TopNode.ofTree?`: what a tree at the top of a file is.
* `SourceFile.ofNodes`: a file from the nodes at its top.
-/

namespace SdkGen.Go

/-- The leaves among some trees, in order. -/
def leafTexts (ts : List Tree) : List (String × Position) :=
  ts.filterMap fun
    | .leaf text pos => some (text, pos)
    | .node _ _ _ => none

/-- The text of the last tree, where that is a leaf. -/
def lastLeaf? (ts : List Tree) : Option String :=
  match ts.getLast? with
  | some (.leaf text _) => some text
  | _ => none

/-- The names in front of a field's type. -/
def fieldNames (ts : List Tree) : List String :=
  let leading := ts.takeWhile fun t => t.kind?.isNone
  ((leafTexts leading).map Prod.fst).filter (· ≠ ",")

/-- A struct's field line from its parts and the type among them. -/
def FieldSyntax.ofParts (k : Kind) (pos : Position) (parts : List Tree) (type : TypeSyntax) :
    FieldSyntax :=
  match k, parts with
  | .embeddedField, .leaf _ _ :: _ => ⟨[], .pointer type, lastLeaf? parts, pos⟩
  | .embeddedField, _ => ⟨[], type, lastLeaf? parts, pos⟩
  | _, _ => ⟨fieldNames parts, type, lastLeaf? parts, pos⟩

mutual

/-- The type that a tree stands for; a tree that is no type stands for none. -/
def TypeSyntax.ofTree? : Tree → Option TypeSyntax
  | .leaf _ _ => none
  | .node k _ parts =>
    match k with
    | .typeName => (leafTexts parts).head?.map fun l => .name l.1
    | .qualifiedType =>
      match leafTexts parts with
      | [p, _, n] => some (.qualified p.1 n.1)
      | _ => none
    | .appliedType =>
      let named := (TypeSyntax.ofTrees parts).head?
      if parts.length = 1 then named else named.map .generic
    | .pointerType => (TypeSyntax.ofTrees parts).getLast?.map .pointer
    | .parenthesizedType => (TypeSyntax.ofTrees parts).getLast?
    | .sliceType => (TypeSyntax.ofTrees parts).getLast?.map .slice
    | .arrayType => (TypeSyntax.ofTrees parts).getLast?.map .array
    | .structType => some (.struct (FieldSyntax.ofTrees parts))
    | .interfaceType => some .interface
    | .mapType => some .map
    | .channelType => some .channel
    | .functionType => some .function
    | .negatedType => some (.other "negated_type")
    | _ => none

/-- The types among some trees. -/
def TypeSyntax.ofTrees : List Tree → List TypeSyntax
  | [] => []
  | t :: ts =>
    match TypeSyntax.ofTree? t with
    | some type => type :: TypeSyntax.ofTrees ts
    | none => TypeSyntax.ofTrees ts

/-- The field line that a tree stands for. -/
def FieldSyntax.ofTree? : Tree → Option FieldSyntax
  | .leaf _ _ => none
  | .node k pos parts =>
    if k = .field || k = .embeddedField then
      (TypeSyntax.ofTrees parts).getLast?.map fun type => .ofParts k pos parts type
    else none

/-- The field lines among some trees. -/
def FieldSyntax.ofTrees : List Tree → List FieldSyntax
  | [] => []
  | t :: ts =>
    match FieldSyntax.ofTree? t with
    | some f => f :: FieldSyntax.ofTrees ts
    | none => FieldSyntax.ofTrees ts

end

/-- A node at the top of a file. -/
inductive TopNode
  | package (name : String) (pos : Position)
  /-- Declarations to be kept: the specs of a type declaration, or one function. -/
  | declarations (ds : List Declaration) (pos : Position)
  /-- Imports, constants and variables. -/
  | skipped (pos : Position)
  /-- A node that may not stand at the top of a file, by the name of its kind. -/
  | foreign (kind : String) (pos : Position)

namespace TopNode

/-- Where the node starts. -/
def pos : TopNode → Position
  | package _ p => p
  | declarations _ p => p
  | skipped p => p
  | foreign _ p => p

/-- The kind of a statement without a keyword, by the operator after its first operands. -/
def simpleKind (parts : List Tree) : String :=
  match ((leafTexts parts).map Prod.fst).find? (· ≠ ",") with
  | none => "expression statement"
  | some ":=" => "short var declaration"
  | some "++" => "inc statement"
  | some "--" => "dec statement"
  | some "<-" => "send statement"
  | some _ => "assignment statement"

/-- The kind of a switch: the word of a type guard tells a type switch. -/
def switchKind (parts : List Tree) : String :=
  if ((leafTexts parts).map Prod.fst).contains "type" then "type switch statement"
  else "expression switch statement"

/-- The name of a statement's kind. -/
def statementKind (k : Kind) (parts : List Tree) : String :=
  match k with
  | .returnStatement => "return statement"
  | .ifStatement => "if statement"
  | .forStatement => "for statement"
  | .switchStatement => switchKind parts
  | .selectStatement => "select statement"
  | .goStatement => "go statement"
  | .deferStatement => "defer statement"
  | .breakStatement => "break statement"
  | .continueStatement => "continue statement"
  | .gotoStatement => "goto statement"
  | .fallthroughStatement => "fallthrough statement"
  | .labeledStatement => "labeled statement"
  | .emptyStatement => "empty statement"
  | .block => "block"
  | _ => simpleKind parts

/-- A type spec's declaration. -/
def spec? : Tree → Option Declaration
  | .node .typeSpec _ parts =>
    match parts, (TypeSyntax.ofTrees parts).getLast? with
    | .leaf name pos :: _, some type => some (.type name type pos)
    | _, _ => none
  | _ => none

/-- A function's declaration; its name is the token after the first one and the receiver. -/
def function? (receiver : Bool) (parts : List Tree) : Option Declaration :=
  match leafTexts parts with
  | _ :: (name, pos) :: _ => some (.function name receiver pos)
  | _ => none

/-- What a tree at the top of a file is; a separator is nothing. -/
def ofTree? : Tree → Option TopNode
  | .leaf _ _ => none
  | .node k pos parts =>
    match k with
    | .packageClause => (leafTexts parts)[1]?.map fun l => .package l.1 pos
    | .typeDeclaration => some (.declarations (parts.filterMap spec?) pos)
    | .functionDeclaration => some (.declarations (function? false parts).toList pos)
    | .methodDeclaration => some (.declarations (function? true parts).toList pos)
    | .importDeclaration => some (.skipped pos)
    | .constDeclaration => some (.skipped pos)
    | .varDeclaration => some (.skipped pos)
    | _ => some (.foreign (statementKind k parts) pos)

end TopNode

end SdkGen.Go
