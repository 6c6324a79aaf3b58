import SdkGen.Go.Mending.Leaf
import SdkGen.Go.Tree

/-!
# Trees of mended texts

A mended text in which only line ends are missing has the trees that its phrases stand for. The
search is not trusted here: each token is read again where it stands, and each phrase has to
follow a production.

* `Piece.trees?`: the trees of a piece, and the text after it.
-/

namespace SdkGen.Go

/-- The kinds of nodes that phrases stand for. Other phrases make no node. -/
def kindOf? : String → Option Kind
  | "package clause" => some .packageClause
  | "import declaration" => some .importDeclaration
  | "const declaration" => some .constDeclaration
  | "var declaration" => some .varDeclaration
  | "type declaration" => some .typeDeclaration
  | "function declaration" => some .functionDeclaration
  | "method declaration" => some .methodDeclaration
  | "return statement" => some .returnStatement
  | "if statement" => some .ifStatement
  | "for statement" => some .forStatement
  | "expression switch statement" => some .switchStatement
  | "type switch statement" => some .switchStatement
  | "select statement" => some .selectStatement
  | "go statement" => some .goStatement
  | "defer statement" => some .deferStatement
  | "break statement" => some .breakStatement
  | "continue statement" => some .continueStatement
  | "goto statement" => some .gotoStatement
  | "fallthrough statement" => some .fallthroughStatement
  | "labeled statement" => some .labeledStatement
  | "empty statement" => some .emptyStatement
  | "block" => some .block
  | "expression statement" => some .simpleStatement
  | "send statement" => some .simpleStatement
  | "inc statement" => some .simpleStatement
  | "dec statement" => some .simpleStatement
  | "assignment statement" => some .simpleStatement
  | "short var declaration" => some .simpleStatement
  | "expression" => some .operand
  | "expression list" => some .operand
  | "type spec" => some .typeSpec
  | "type alias" => some .typeSpec
  | "type parameter list" => some .typeParameters
  | "parameter list" => some .parameterList
  | "generic type" => some .appliedType
  | "qualified type" => some .qualifiedType
  | "pointer type" => some .pointerType
  | "parenthesized type" => some .parenthesizedType
  | "struct type" => some .structType
  | "interface type" => some .interfaceType
  | "map type" => some .mapType
  | "channel type" => some .channelType
  | "function type" => some .functionType
  | "slice type" => some .sliceType
  | "array type" => some .arrayType
  | "negated type" => some .negatedType
  | _ => none

/-- The phrases in which a name alone stands for a type. -/
def namesType : List String :=
  ["simple type", "generic type", "field declaration", "composite literal"]

/-- The definition of the phrase that a symbol stands for. -/
def Numbering.phrase? (n : Numbering) (symbol : Nat) : Option Definition :=
  if symbol < n.tokens.size then none else n.phrases[symbol - n.tokens.size]?

/-- A part of a text as one leaf. -/
def leafOf (c : Cursor) (length : Nat) : Tree := .leaf (String.ofList (c.rest.take length)) c.pos

namespace Piece

/-- A token's leaf; line ends make none. Where the name of a type stands alone, it makes a node. -/
def tokenTrees (t : Token) (parent : String) (renamed : Option String) (c : Cursor)
    (length : Nat) : List Tree :=
  if !t.isShown then []
  else if renamed = some "type_identifier" && namesType.contains parent then
    [.node .typeName c.pos [leafOf c length]]
  else [leafOf c length]

/-- The kind of a struct's field line: a field with names starts with one. -/
def fieldKind (steps : List Step) : Kind :=
  if steps.head?.any (·.renamed = some "field_identifier") then .field else .embeddedField

/-- The trees of a phrase. A string literal is one leaf. -/
def phraseTrees (name : String) (steps : List Step) (c : Cursor) (length : Nat)
    (parts : List Tree) : List Tree :=
  if name = "interpreted string literal" then [leafOf c length]
  else if name = "field declaration" then Tree.group (fieldKind steps) parts
  else match kindOf? name with
    | some k => Tree.group k parts
    | none => parts

mutual

/-- The trees of a piece that starts at a cursor, and the text after it. -/
def trees? (m : Machine) (parent : String) (renamed : Option String) (c : Cursor) :
    Piece → Option (List Tree × Cursor)
  | ⟨label, before, size, extra, missing, _, _, _, _, _, _, production, parts⟩ =>
    let d := c.advance before.chars
    if !(c.rest.take before.chars).all isPassedOver then none
    else match label with
      | .symbol symbol =>
        match m.numbering.tokens[symbol]?, production.bind (m.productions[·]?) with
        | some t, _ =>
          if missing then if t.isShown then none else some ([], c)
          else if t.spells size.chars d.rest then
            some (if extra then [] else tokenTrees t parent renamed d size.chars,
              d.advance size.chars)
          else none
        | none, some p =>
          match m.numbering.phrase? symbol with
          | some phrase =>
            if p.head ≠ symbol then none
            else match treesAmong? m phrase.name p.steps.toList c parts with
              | some (ts, e) => some (phraseTrees phrase.name p.steps.toList d size.chars ts, e)
              | none => none
          | none => none
        | none, none => none
      | _ => none

/-- The trees of pieces that follow one another; those that are not extra follow the steps, and
those that are make no trees. -/
def treesAmong? (m : Machine) (parent : String) (steps : List Step) (c : Cursor) :
    List Piece → Option (List Tree × Cursor)
  | [] => if steps.isEmpty then some ([], c) else none
  | p :: ps =>
    if p.extra then do
      let (_, d) ← trees? m parent none c p
      treesAmong? m parent steps d ps
    else match steps with
      | [] => none
      | s :: ss =>
        if p.label ≠ .symbol s.symbol then none
        else do
          let (ts, d) ← trees? m parent s.renamed c p
          let (us, e) ← treesAmong? m parent ss d ps
          pure (ts ++ us, e)

end

end Piece

end SdkGen.Go
