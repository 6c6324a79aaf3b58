import SdkGen.Go.Rule

/-!
# The grammar of Go

The grammar is a table of rules. Line ends are blanks except where a construct could end: there
the first line end ends it. So a rule that may go on says whether lines end it.

* `Context`: what the surroundings make of the next token.
* `Phrase`: the phrases that refer to one another.
* `grammar`: the rule of each phrase.
* `sourceFile`: the rule of a whole file.
-/

namespace SdkGen.Go

/-- What the surroundings of an expression make of the next token. -/
structure Context where
  /-- A line end ends the expression. -/
  lines : Bool
  /-- An opening brace starts a block. -/
  header : Bool
  deriving DecidableEq, Repr

namespace Context

/-- Between brackets. -/
def inner : Context := ⟨false, false⟩

/-- The operands of a statement. -/
def outer : Context := ⟨true, false⟩

/-- The head of a statement, before the block. -/
def head : Context := ⟨false, true⟩

end Context

/-- The phrases that refer to one another. -/
inductive Phrase
  | type (lines : Bool)
  | parameters
  | expression (c : Context)
  | literalValue
  | statement
  | ifStatement
  | operandFirst
  deriving DecidableEq, Repr

open Rule

/-- Rules over the phrases of Go. -/
abbrev GoRule := Rule Phrase

/-! ## Tokens -/

/-- A name. -/
def word : GoRule := .terminal .word

/-- A string literal. -/
def stringLiteral : GoRule := .terminal .text

/-- The words that allocate. -/
def allocator : GoRule := keyword "new" <|> keyword "make"

/-- The words that are operands by themselves. -/
def ownOperand : GoRule :=
  allocator <|> keyword "nil" <|> keyword "true" <|> keyword "false" <|> keyword "iota"

/-- Operators between two operands. -/
def binaryOperators : List String :=
  ["*", "/", "%", "<<", ">>", "&", "&^", "+", "-", "|", "^", "==", "!=", "<", "<=", ">", ">=",
    "&&", "||"]

/-- Operators before an operand. -/
def unaryOperators : List String := ["+", "-", "!", "^", "*", "&", "<-"]

/-- Operators between the two sides of an assignment. -/
def assignmentOperators : List String :=
  ["=", "*=", "/=", "%=", "<<=", ">>=", "&=", "&^=", "+=", "-=", "|=", "^="]

/-! ## Types -/

/-- The type phrase inside brackets. -/
def innerType : GoRule := .phrase (.type false)

/-- An expression between brackets. -/
def innerExpression : GoRule := .phrase (.expression .inner)

/-- A union of types, as in a constraint. -/
def typeElement (lines : Bool) : GoRule :=
  .phrase (.type lines) >> .many (continued lines (mark "|" >> .phrase (.type lines)))

/-- Types with commas between them, as in arguments. -/
def typeElements : GoRule :=
  typeElement false >> .many (.attempt (mark "," >> typeElement false)) >> maybe (mark ",")

/-- Type arguments. -/
def typeArguments : GoRule := .enclosed .square typeElements

/-- A type that starts, behind stars and parentheses, with a word that is an operand. -/
def operandFirst : GoRule :=
  .many (mark "*") >>
    (ownOperand <|> .enclosed .round (.look true (.phrase .operandFirst) >> innerType))

/-- A name before a bracket that starts with an operand. Where an expression may stand in it, it
holds a length or an index, not arguments. -/
def lengthAhead (lines : Bool) : GoRule :=
  word >> continued lines (.enclosed .square (.look true (.phrase .operandFirst) >> typeElements))

/-- A type's name, qualified or not. -/
def typeName (lines : Bool) : GoRule :=
  .attempt (.node .qualifiedType (word >> continued lines (mark "." >> word))) <|>
    .node .typeName word

/-- A type's name with or without arguments. -/
def namedType (lines : Bool) : GoRule :=
  .node .appliedType (typeName lines >> maybe (continued lines typeArguments))

/-- A negated name with arguments. -/
def negatedName (lines : Bool) : GoRule :=
  .node .appliedType
    (.node .negatedType (mark "~" >> typeName lines) >> continued lines typeArguments)

/-- The result of a function: parameters, or one type. -/
def result (lines : Bool) : GoRule :=
  maybe (continued lines (.phrase .parameters <|> .phrase (.type lines)))

/-- A parameter: a type, with or without a name. -/
def parameter : GoRule :=
  .attempt (word >> maybe (mark "...") >> innerType) <|>
    .look false (lengthAhead false) >> maybe (mark "...") >> innerType

/-- Slice and array types. -/
def bracketType (lines : Bool) : GoRule :=
  .node .sliceType (.attempt (.enclosed .square .empty) >> .phrase (.type lines)) <|>
    .node .arrayType (.enclosed .square innerExpression >> .phrase (.type lines))

/-- A map type. -/
def mapType (lines : Bool) : GoRule :=
  .node .mapType (keyword "map" >> .enclosed .square innerType >> .phrase (.type lines))

/-- A channel type. -/
def channelType (lines : Bool) : GoRule :=
  .node .channelType
    ((keyword "chan" >> maybe (mark "<-") <|> mark "<-" >> keyword "chan") >>
      .phrase (.type lines))

/-- The type of an embedded field. A negated one has arguments. -/
def embeddedType : GoRule := negatedName true <|> namedType true

/-- A field of a struct type. An embedded type is followed by the end of the field. -/
def field : GoRule :=
  .attempt (.look false (lengthAhead true) >>
    .node .embeddedField
      (maybe (mark "*") >> embeddedType >> maybe (continued true stringLiteral)) >>
    (.look true (.terminal .terminator) <|> .beforeClosing .curly)) <|>
  .node .field (commaSeparated word >> .phrase (.type true) >>
    maybe (continued true stringLiteral))

/-- A struct type. -/
def structType : GoRule :=
  .node .structType (keyword "struct" >> .enclosed .curly (terminated field))

/-- An element of an interface type: a method or an embedded union. -/
def interfaceElement : GoRule :=
  .attempt (word >> continued true (.phrase .parameters)) >> result true <|> typeElement true

/-- An interface type. -/
def interfaceType : GoRule :=
  .node .interfaceType (keyword "interface" >> .enclosed .curly (terminated interfaceElement))

/-- A type; lines end it where the rule says so. -/
def type (lines : Bool) : GoRule :=
  .node .pointerType (mark "*" >> .phrase (.type lines)) <|>
  .node .parenthesizedType (.enclosed .round innerType) <|>
  bracketType lines <|>
  structType <|>
  interfaceType <|>
  mapType lines <|>
  channelType lines <|>
  .node .functionType (keyword "func" >> .phrase .parameters >> result lines) <|>
  .node .negatedType (mark "~" >> .phrase (.type lines)) <|>
  namedType lines

/-- A list of parameters. -/
def parameters : GoRule := .enclosed .round (listed parameter)

/-- Type parameters of a declaration. -/
def typeParameters : GoRule :=
  let declared := .look false ownOperand >> commaSeparated word >> typeElement false
  .node .typeParameters
    (.enclosed .square (declared >> .many (.attempt (mark "," >> declared)) >>
      maybe (mark ",")))

/-! ## Expressions -/

/-- Expressions with commas between them. -/
def expressions (c : Context) : GoRule :=
  .phrase (.expression c) >> .many (continued c.lines (mark "," >> .phrase (.expression c)))

/-- An element of a composite literal, with or without a key. -/
def literalElement : GoRule :=
  let value := .phrase .literalValue <|> innerExpression
  value >> maybe (mark ":" >> value)

/-- The braces of a composite literal. -/
def literalValue : GoRule := .enclosed .curly (listed literalElement)

/-- The operand of a conversion, between parentheses. -/
def converted : GoRule := .enclosed .round (innerExpression >> maybe (mark ","))

/-- A label and its colon, on one line. -/
def label : GoRule := .look false ownOperand >> word >> continued true (mark ":")

/-- A label at the end of a block or case. -/
def lastLabel : GoRule :=
  .attempt (label >> (.beforeClosing .curly <|>
    .look true (keyword "case" <|> keyword "default")))

/-- Statements with terminators between them. -/
def statements : GoRule :=
  let item := lastLabel <|> .phrase .statement
  maybe (item >> .many (.terminal .terminator >> maybe item))

/-- Statements between braces. -/
def block : GoRule := .enclosed .curly statements

/-- A composite literal of a named type. -/
def namedLiteral (lines : Bool) : GoRule :=
  .attempt (.look false ownOperand >> namedType lines >>
    continued lines (.beforeOpening .curly)) >> .phrase .literalValue

/-- The words that allocate, applied to a type. -/
def allocation (lines : Bool) : GoRule :=
  .attempt (allocator >> continued lines (.beforeOpening .round)) >>
    .enclosed .round (maybe (innerType >> .many (.attempt (mark "," >> innerExpression)) >>
      maybe (mark ",")))

/-- What may be a type too goes on to brackets at the start of a later line. Where lines end an
operand, that is left open. -/
def endOfOperand (lines : Bool) : GoRule :=
  let opening := .beforeOpening .round <|> .beforeOpening .square <|> .phrase .literalValue
  if lines then .look false (.look false .sameLine >> opening) else .empty

/-- What may start an expression anywhere, before selectors, calls and indices. -/
def headOperand (lines : Bool) : GoRule :=
  allocation lines <|> word <|>
  .enclosed .round innerExpression >> endOfOperand lines <|>
  .attempt (.enclosed .square (mark "...")) >> innerType >> .phrase .literalValue <|>
  (bracketType false <|> mapType false <|> structType) >> (.phrase .literalValue <|> converted) <|>
  (channelType false <|> interfaceType) >> converted <|>
  keyword "func" >> .phrase .parameters >> result false >> (block <|> converted) <|>
  .terminal .number <|> .terminal .rune <|> stringLiteral

/-- What may start an expression; in a head an opening brace after a name starts the block. -/
def operand (c : Context) : GoRule :=
  if c.header then headOperand c.lines else namedLiteral c.lines <|> headOperand c.lines

/-- Index, slice or type arguments. The arguments of a call follow type arguments. -/
def subscript (lines : Bool) : GoRule :=
  let bounds := mark ":" >> maybe (innerExpression >> maybe (mark ":" >> innerExpression))
  .attempt (.enclosed .square (innerExpression >> maybe bounds <|> bounds)) <|>
    .enclosed .square (.look false (.phrase .operandFirst) >> typeElements) >>
      continued lines (.beforeOpening .round)

/-- The arguments of a call. -/
def arguments : GoRule :=
  let argument := innerExpression >> maybe (mark "...")
  .enclosed .round (maybe (argument >> .many (.attempt (mark "," >> argument)) >>
    maybe (mark ",")))

/-- The mark of a type switch after its operand. -/
def typeGuard : GoRule := mark "." >> .enclosed .round (keyword "type")

/-- A selector or a type assertion. -/
def selector (c : Context) : GoRule :=
  let plain := mark "." >> (word <|> .enclosed .round innerType)
  if c.header then .look false typeGuard >> plain else plain

/-- An operand with its selectors, calls and subscripts. -/
def primary (c : Context) : GoRule :=
  operand c >> .many (continued c.lines
    ((selector c <|> subscript c.lines) >> endOfOperand c.lines <|> arguments))

/-- An operator before an operand. -/
def unaryOperator : GoRule := .terminal (.mark unaryOperators)

/-- Binary operators and their second operands. -/
def expressionRest (c : Context) : GoRule :=
  .many (continued c.lines
    (.terminal (.mark binaryOperators) >> .many unaryOperator >> primary c))

/-- An expression: operands with binary operators between them. -/
def expression (c : Context) : GoRule := .many unaryOperator >> primary c >> expressionRest c

/-! ## Declarations -/

/-- One import. -/
def importSpec : GoRule := maybe (mark "." <|> word) >> stringLiteral

/-- One spec, or a group of specs between parentheses. -/
def specOrGroup (spec : GoRule) : GoRule :=
  .enclosed .round (.many (spec >> .terminal .terminator)) <|> spec

/-- Imports. -/
def importDeclaration : GoRule :=
  .node .importDeclaration
    (keyword "import" >> (.enclosed .round (terminated importSpec) <|> importSpec))

/-- Constants. -/
def constDeclaration : GoRule :=
  let names := word >> .many (continued true (mark "," >> word))
  let value := mark "=" >> expressions .outer
  .node .constDeclaration
    (keyword "const" >>
      specOrGroup (names >> maybe (continued true (value <|> .phrase (.type false) >> value))))

/-- Variables. -/
def varDeclaration : GoRule :=
  let value := mark "=" >> expressions .outer
  .node .varDeclaration
    (keyword "var" >> specOrGroup (commaSeparated word >>
      (value <|> .phrase (.type true) >> maybe (continued true value))))

/-- The length of an array that starts with a literal of a type applied to operands. -/
def literalSize : GoRule :=
  .look true (lengthAhead false >> .beforeOpening .curly) >> innerExpression

/-- A type's declaration or alias. What may be both the length of an array and the parameters of
the type is left open, and so is a length behind which parameters could go on. -/
def typeSpec : GoRule :=
  let underlying := .phrase (.type true)
  .node .typeSpec
    (word >> (mark "=" >> underlying <|>
      .look false typeParameters >> .look false (.enclosed .square literalSize) >> underlying <|>
      .look false (.enclosed .square innerExpression) >> typeParameters >> underlying))

/-- Types. -/
def typeDeclaration : GoRule :=
  .node .typeDeclaration (keyword "type" >> specOrGroup typeSpec)

/-- A function. -/
def functionDeclaration : GoRule :=
  .node .functionDeclaration
    (.attempt (keyword "func" >> word) >> maybe typeParameters >> .phrase .parameters >>
      result true >> maybe (continued true block))

/-- A method. -/
def methodDeclaration : GoRule :=
  .node .methodDeclaration
    (.attempt (keyword "func" >> .node .parameterList (.phrase .parameters) >> word >>
        .beforeOpening .round) >>
      .phrase .parameters >>
      result true >> maybe (continued true block))

/-- A package clause. -/
def packageClause : GoRule :=
  .node .packageClause (keyword "package" >> word)

/-! ## Statements -/

/-- What may follow the first operand of a statement without a keyword. -/
def simpleRest (before after : Context) : GoRule :=
  let next (c : Context) : GoRule := .node .operand (.phrase (.expression c))
  let right := .terminal (.mark (":=" :: assignmentOperators)) >>
    next after >> .many (continued after.lines (mark "," >> next after))
  continued before.lines (mark "," >> next before) >>
      .many (continued before.lines (mark "," >> next before)) >> right <|>
    continued before.lines (right <|> .terminal (.mark ["++", "--"]) <|>
      mark "<-" >> next after)

/-- A statement without a keyword. -/
def simpleStatement (before after : Context) : GoRule :=
  .node .simpleStatement
    (.node .operand (.phrase (.expression before)) >> maybe (simpleRest before after))

/-- An `if` statement. -/
def ifStatement : GoRule :=
  let condition := .phrase (.expression .head)
  .node .ifStatement
    (keyword "if" >> condition >>
      maybe (maybe (simpleRest .head .inner) >> mark ";" >> condition) >> block >>
      maybe (continued true (keyword "else" >> (block <|> .phrase .ifStatement))))

/-- The rest of a `for` clause after its first part. -/
def forRest : GoRule :=
  mark ";" >> maybe innerExpression >> mark ";" >> maybe (simpleStatement .head .head)

/-- A `for` statement. -/
def forStatement : GoRule :=
  let first := .phrase (.expression .head)
  let ranged := keyword "range" >> first
  let further := .many (mark "," >> first)
  let define := .terminal (.mark [":=", "="])
  let others := .terminal (.mark (assignmentOperators.filter (· ≠ "=")))
  let assigned := define >> (ranged <|> expressions .inner >> forRest) <|>
    others >> expressions .inner >> forRest
  .node .forStatement
    (keyword "for" >>
      maybe (ranged <|> forRest <|>
        first >> maybe (mark "," >> first >> further >> assigned <|> assigned <|>
          (.terminal (.mark ["++", "--"]) <|> mark "<-" >> innerExpression) >> forRest <|>
          forRest)) >> block)

/-- The cases of a switch or select statement. -/
def cases (label : GoRule) : GoRule :=
  .enclosed .curly (.many
    ((keyword "case" >> label >> mark ":" <|> keyword "default" >> mark ":") >> statements))

/-- The subject of a switch: an operand before a type guard, or any expression. -/
def subject (guarded other : GoRule) : GoRule :=
  unaryOperator >> .many unaryOperator >> primary .head >> expressionRest .head >> other <|>
    primary .head >> (typeGuard >> guarded <|> expressionRest .head >> other)

/-- A switch over values or types. -/
def switchStatement : GoRule :=
  let types := cases (commaSeparated innerType)
  let values := cases (commaSeparated innerExpression)
  let defined := mark ":=" >> primary .head >> typeGuard >> types
  let afterInit := mark ";" >> (values <|> subject types (values <|> defined))
  let further := .many (mark "," >> .phrase (.expression .head)) >> afterInit
  .node .switchStatement
    (keyword "switch" >>
      (values <|> subject types (values <|> afterInit <|> mark ":=" >> subject types further <|>
        simpleRest .head .inner >> afterInit)))

/-- A `select` statement. -/
def selectStatement : GoRule :=
  let define := .terminal (.mark [":=", "="])
  .node .selectStatement
    (keyword "select" >> cases
      (innerExpression >>
        maybe (mark "<-" >> innerExpression <|>
          .many (mark "," >> innerExpression) >> define >> innerExpression)))

/-- A word and a label, if there is one. -/
def jump (k : Kind) (text : String) : GoRule :=
  .node k (keyword text >> maybe (continued true word))

/-- A statement. -/
def statement : GoRule :=
  constDeclaration <|> typeDeclaration <|> varDeclaration <|>
  .node .returnStatement (keyword "return" >> maybe (continued true (expressions .outer))) <|>
  .node .goStatement (keyword "go" >> .phrase (.expression .outer)) <|>
  .node .deferStatement (keyword "defer" >> .phrase (.expression .outer)) <|>
  .phrase .ifStatement <|>
  forStatement <|>
  switchStatement <|>
  selectStatement <|>
  jump .breakStatement "break" <|>
  jump .continueStatement "continue" <|>
  .node .gotoStatement (keyword "goto" >> word) <|>
  .node .fallthroughStatement (keyword "fallthrough") <|>
  .node .block block <|>
  .node .emptyStatement (mark ";") <|>
  .node .labeledStatement (.attempt label >> .phrase .statement) <|>
  simpleStatement .outer .outer

/-- The rule of each phrase. -/
def grammar : Phrase → GoRule
  | .type lines => type lines
  | .parameters => parameters
  | .expression c => expression c
  | .literalValue => literalValue
  | .statement => statement
  | .ifStatement => ifStatement
  | .operandFirst => operandFirst

/-- A declaration that may stand at the top of a file only. -/
def topDeclaration : GoRule :=
  packageClause <|> importDeclaration <|> functionDeclaration <|> methodDeclaration

/-- A whole file. After a declaration that ends the file no separator is wanted. -/
def sourceFile : GoRule :=
  .many (.attempt ((topDeclaration <|> .phrase .statement) >> .terminal .terminator)) >>
    maybe topDeclaration

end SdkGen.Go
