import SdkGen.Go.Form

/-!
# The phrases of Go

* `definitions`: every phrase with its form; the first one is a whole file.
-/

namespace SdkGen.Go.Form

/-! ## Names and literals -/

/-- A name. -/
def name : Form := .token .word

/-- The name of a type. -/
def typeName : Form := .renamed "type_identifier" name

/-- The name of a field or method. -/
def fieldName : Form := .renamed "field_identifier" name

/-- The name of a package. -/
def packageName : Form := .renamed "package_identifier" name

/-- The name of a label. -/
def labelName : Form := .renamed "label_name" name

/-- A string literal of either form. -/
def text : Form := .token .rawText <|> .phrase "interpreted string literal"

/-- What ends a declaration or statement. -/
def terminator : Form := .token .lineEnd <|> mark ";" <|> .token .nul

/-- Operators between operands: the strongest first. -/
def productOperators : List String := ["*", "/", "%", "<<", ">>", "&", "&^"]

/-- Operators that add. -/
def sumOperators : List String := ["+", "-", "|", "^"]

/-- Operators that compare. -/
def comparisonOperators : List String := ["==", "!=", "<", "<=", ">", ">="]

/-- Operators that assign. -/
def assigningOperators : List String :=
  (productOperators ++ sumOperators).map (· ++ "=") ++ ["="]

/-! ## Phrases that are referred to often -/

/-- A type without parentheses around it. -/
def simpleType : Form := .phrase "simple type"

/-- Any type. -/
def anyType : Form := simpleType <|> .phrase "parenthesized type"

/-- Any expression. -/
def operand : Form := .phrase "expression"

/-- Expressions with commas between them. -/
def operands : Form := .phrase "expression list"

/-- Any statement. -/
def anyStatement : Form := .phrase "statement"

/-- The statements of a block or case, which may be none. -/
def body : Form := maybe (.phrase "statement list")

/-- Parameters between parentheses. -/
def parameterList : Form := .phrase "parameter list"

/-- The result of a function, or none. -/
def resultType : Form := maybe (parameterList <|> simpleType)

/-- Braces around statements. -/
def braces : Form := .phrase "block"

/-- The first part of a statement's head. -/
def firstPart : Form := maybe (.phrase "simple statement" >> mark ";")

/-- The words that allocate. -/
def allocator : Form := .renamed "identifier" (word "new" <|> word "make")

/-- A label alone at the end of a block. -/
def lastLabel : Form := .renamed "labeled statement" (.phrase "empty labeled statement")

/-! ## Declarations -/

/-- A whole file and its declarations. -/
def declarationForms : List Definition :=
  let onTop := .phrase "package clause" <|> .phrase "function declaration" <|>
    .phrase "method declaration" <|> .phrase "import declaration"
  let importSpec := .phrase "import spec"
  let spec := .phrase "type spec" <|> .phrase "type alias"
  let value := mark "=" >> operands
  [⟨"source file", true,
      many (anyStatement >> terminator <|> onTop >> terminator) >> maybe onTop⟩,
    ⟨"package clause", true, word "package" >> packageName⟩,
    ⟨"import declaration", true, word "import" >> (importSpec <|> .phrase "import spec list")⟩,
    ⟨"import spec", true, maybe (.phrase "dot" <|> word "_" <|> packageName) >> text⟩,
    ⟨"dot", true, mark "."⟩,
    ⟨"import spec list", true,
      mark "(" >> maybe (importSpec >> many (terminator >> importSpec) >> maybe terminator) >>
        mark ")"⟩,
    ⟨"declaration", false,
      .phrase "const declaration" <|> .phrase "type declaration" <|> .phrase "var declaration"⟩,
    ⟨"const declaration", true,
      word "const" >> (.phrase "const spec" <|>
        mark "(" >> many (.phrase "const spec" >> terminator) >> mark ")")⟩,
    ⟨"const spec", true,
      .ranked 0 (some .left) (commaSeparated name >> maybe (maybe anyType >> value))⟩,
    ⟨"var declaration", true, word "var" >> (.phrase "var spec" <|> .phrase "var spec list")⟩,
    ⟨"var spec list", true, mark "(" >> many (.phrase "var spec" >> terminator) >> mark ")"⟩,
    ⟨"var spec", true, commaSeparated name >> (anyType >> maybe value <|> value)⟩,
    ⟨"function declaration", true,
      .ranked 1 (some .right) (word "func" >> name >> maybe (.phrase "type parameter list") >>
        parameterList >> resultType >> maybe braces)⟩,
    ⟨"method declaration", true,
      .ranked 1 (some .right) (word "func" >> parameterList >> fieldName >> parameterList >>
        resultType >> maybe braces)⟩,
    ⟨"type parameter list", true,
      mark "[" >> commaSeparated (.phrase "type parameter declaration") >> maybe (mark ",") >>
        mark "]"⟩,
    ⟨"type parameter declaration", true,
      commaSeparated name >> .renamed "type_constraint" (.phrase "type element")⟩,
    ⟨"parameter list", true,
      mark "(" >> maybe (maybe (commaSeparated (.phrase "parameter declaration" <|>
        .phrase "variadic parameter declaration")) >> maybe (mark ",")) >> mark ")"⟩,
    ⟨"parameter declaration", true, maybe (commaSeparated name) >> anyType⟩,
    ⟨"variadic parameter declaration", true, maybe name >> mark "..." >> anyType⟩,
    ⟨"type alias", true, typeName >> mark "=" >> anyType⟩,
    ⟨"type declaration", true,
      word "type" >> (.phrase "type spec" <|> .phrase "type alias" <|>
        mark "(" >> many (spec >> terminator) >> mark ")")⟩,
    ⟨"type spec", true,
      .weighted 1 (typeName >> maybe (.phrase "type parameter list") >> anyType)⟩,
    ⟨"expression list", true, commaSeparated operand⟩]

/-! ## Types -/

/-- The types and their parts. -/
def typeForms : List Definition :=
  let element := .phrase "type element"
  let fieldSpec := .phrase "field declaration"
  let member := .phrase "method element" <|> element
  let items (f : Form) := maybe (f >> many (terminator >> f) >> maybe terminator)
  [⟨"parenthesized type", true, mark "(" >> anyType >> mark ")"⟩,
    ⟨"simple type", false,
      .weighted (-1) typeName <|> .phrase "generic type" <|> .phrase "qualified type" <|>
        .phrase "pointer type" <|> .phrase "struct type" <|> .phrase "interface type" <|>
        .phrase "array type" <|> .phrase "slice type" <|> .phrase "map type" <|>
        .phrase "channel type" <|> .phrase "function type" <|> .phrase "negated type"⟩,
    ⟨"generic type", true,
      .weighted 1 ((typeName <|> .phrase "qualified type" <|> .phrase "negated type") >>
        .phrase "type arguments")⟩,
    ⟨"type arguments", true,
      .weighted 2 (mark "[" >> commaSeparated element >> maybe (mark ",") >> mark "]")⟩,
    ⟨"pointer type", true, .ranked 6 none (mark "*" >> anyType)⟩,
    ⟨"array type", true,
      .ranked 0 (some .right) (mark "[" >> operand >> mark "]" >> anyType)⟩,
    ⟨"implicit length array type", true, mark "[" >> mark "..." >> mark "]" >> anyType⟩,
    ⟨"slice type", true, .ranked 0 (some .right) (mark "[" >> mark "]" >> anyType)⟩,
    ⟨"struct type", true, word "struct" >> .phrase "field declaration list"⟩,
    ⟨"negated type", true, .ranked 0 (some .left) (mark "~" >> anyType)⟩,
    ⟨"field declaration list", true, mark "\x7b" >> items fieldSpec >> mark "\x7d"⟩,
    ⟨"field declaration", true,
      (commaSeparated fieldName >> anyType <|>
        maybe (mark "*") >> (typeName <|> .phrase "qualified type" <|> .phrase "generic type")) >>
        maybe text⟩,
    ⟨"interface type", true, word "interface" >> mark "\x7b" >> items member >> mark "\x7d"⟩,
    ⟨"method element", true, fieldName >> parameterList >> resultType⟩,
    ⟨"type element", true, separated "|" anyType⟩,
    ⟨"map type", true,
      .ranked 0 (some .right) (word "map" >> mark "[" >> anyType >> mark "]" >> anyType)⟩,
    ⟨"channel type", true,
      .ranked 0 (some .left) (word "chan" >> anyType <|> word "chan" >> mark "<-" >> anyType <|>
        .ranked 6 none (mark "<-" >> word "chan" >> anyType))⟩,
    ⟨"function type", true,
      .ranked 0 (some .right) (word "func" >> parameterList >> resultType)⟩]

/-! ## Statements -/

/-- The statements and their parts. -/
def statementForms : List Definition :=
  let define := mark "=" <|> mark ":="
  let defaultCase := .phrase "default case"
  [⟨"block", true, mark "\x7b" >> body >> mark "\x7d"⟩,
    ⟨"statement list", false,
      anyStatement >> many (terminator >> anyStatement) >> maybe (terminator >> maybe lastLabel) <|>
        lastLabel⟩,
    ⟨"statement", false,
      .phrase "declaration" <|> .phrase "simple statement" <|> .phrase "return statement" <|>
        .phrase "go statement" <|> .phrase "defer statement" <|> .phrase "if statement" <|>
        .phrase "for statement" <|> .phrase "expression switch statement" <|>
        .phrase "type switch statement" <|> .phrase "select statement" <|>
        .phrase "labeled statement" <|> .phrase "fallthrough statement" <|>
        .phrase "break statement" <|> .phrase "continue statement" <|>
        .phrase "goto statement" <|> braces <|> .phrase "empty statement"⟩,
    ⟨"empty statement", true, mark ";"⟩,
    ⟨"simple statement", false,
      .phrase "expression statement" <|> .phrase "send statement" <|> .phrase "inc statement" <|>
        .phrase "dec statement" <|> .phrase "assignment statement" <|>
        .phrase "short var declaration"⟩,
    ⟨"expression statement", true, operand⟩,
    ⟨"send statement", true, operand >> mark "<-" >> operand⟩,
    ⟨"receive statement", true, maybe (operands >> define) >> operand⟩,
    ⟨"inc statement", true, operand >> mark "++"⟩,
    ⟨"dec statement", true, operand >> mark "--"⟩,
    ⟨"assignment statement", true, operands >> oneOf assigningOperators >> operands⟩,
    ⟨"short var declaration", true, operands >> mark ":=" >> operands⟩,
    ⟨"labeled statement", true, labelName >> mark ":" >> anyStatement⟩,
    ⟨"empty labeled statement", true, labelName >> mark ":"⟩,
    ⟨"fallthrough statement", true, .ranked 0 (some .left) (word "fallthrough")⟩,
    ⟨"break statement", true, word "break" >> maybe labelName⟩,
    ⟨"continue statement", true, word "continue" >> maybe labelName⟩,
    ⟨"goto statement", true, word "goto" >> labelName⟩,
    ⟨"return statement", true, word "return" >> maybe operands⟩,
    ⟨"go statement", true, word "go" >> operand⟩,
    ⟨"defer statement", true, word "defer" >> operand⟩,
    ⟨"if statement", true,
      word "if" >> firstPart >> operand >> braces >>
        maybe (word "else" >> (braces <|> .phrase "if statement"))⟩,
    ⟨"for statement", true,
      word "for" >> maybe (operand <|> .phrase "for clause" <|> .phrase "range clause") >> braces⟩,
    ⟨"for clause", true,
      maybe (.phrase "simple statement") >> mark ";" >> maybe operand >> mark ";" >>
        maybe (.phrase "simple statement")⟩,
    ⟨"range clause", true, maybe (operands >> define) >> word "range" >> operand⟩,
    ⟨"expression switch statement", true,
      word "switch" >> firstPart >> maybe operand >> mark "\x7b" >>
        many (.phrase "expression case" <|> defaultCase) >> mark "\x7d"⟩,
    ⟨"expression case", true, word "case" >> operands >> mark ":" >> body⟩,
    ⟨"default case", true, word "default" >> mark ":" >> body⟩,
    ⟨"type switch statement", true,
      word "switch" >> .phrase "type switch header" >> mark "\x7b" >>
        many (.phrase "type case" <|> defaultCase) >> mark "\x7d"⟩,
    ⟨"type switch header", false,
      firstPart >> maybe (operands >> mark ":=") >> operand >> mark "." >> mark "(" >>
        word "type" >> mark ")"⟩,
    ⟨"type case", true, word "case" >> commaSeparated anyType >> mark ":" >> body⟩,
    ⟨"select statement", true,
      word "select" >> mark "\x7b" >> many (.phrase "communication case" <|> defaultCase) >>
        mark "\x7d"⟩,
    ⟨"communication case", true,
      word "case" >> (.phrase "send statement" <|> .phrase "receive statement") >> mark ":" >>
        body⟩]

/-! ## Expressions -/

/-- The expressions and their parts. -/
def expressionForms : List Definition :=
  let argument := operand <|> .phrase "variadic argument"
  let element := .phrase "literal element" <|> .phrase "keyed element"
  let binary (rank : Int) (marks : List String) : Form :=
    .ranked rank (some .left) (operand >> oneOf marks >> operand)
  [⟨"expression", false,
      .phrase "unary expression" <|> .phrase "binary expression" <|>
        .phrase "selector expression" <|> .phrase "index expression" <|>
        .phrase "slice expression" <|> .phrase "call expression" <|>
        .phrase "type assertion expression" <|> .phrase "type conversion expression" <|>
        .phrase "type instantiation expression" <|> name <|> allocator <|>
        .phrase "composite literal" <|> .phrase "func literal" <|> text <|> .token .integer <|>
        .token .floating <|> .token .imaginary <|> .token .rune <|> word "nil" <|>
        word "true" <|> word "false" <|> word "iota" <|> .phrase "parenthesized expression"⟩,
    ⟨"parenthesized expression", true, mark "(" >> operand >> mark ")"⟩,
    ⟨"call expression", true,
      .ranked 7 none (allocator >> .renamed "argument_list" (.phrase "allocator arguments") <|>
        operand >> maybe (.phrase "type arguments") >> .phrase "argument list")⟩,
    ⟨"variadic argument", true, .ranked 0 (some .right) (operand >> mark "...")⟩,
    ⟨"allocator arguments", true,
      mark "(" >> maybe (anyType >> many (mark "," >> operand) >> maybe (mark ",")) >> mark ")"⟩,
    ⟨"argument list", true,
      mark "(" >> maybe (argument >> many (mark "," >> argument) >> maybe (mark ",")) >> mark ")"⟩,
    ⟨"selector expression", true, .ranked 7 none (operand >> mark "." >> fieldName)⟩,
    ⟨"index expression", true, .ranked 7 none (operand >> mark "[" >> operand >> mark "]")⟩,
    ⟨"slice expression", true,
      .ranked 7 none (operand >> mark "[" >>
        (maybe operand >> mark ":" >> maybe operand <|>
          maybe operand >> mark ":" >> operand >> mark ":" >> operand) >> mark "]")⟩,
    ⟨"type assertion expression", true,
      .ranked 7 none (operand >> mark "." >> mark "(" >> anyType >> mark ")")⟩,
    ⟨"type conversion expression", true,
      .weighted (-1) (anyType >> mark "(" >> operand >> maybe (mark ",") >> mark ")")⟩,
    ⟨"type instantiation expression", true,
      .ranked 7 none (anyType >> mark "[" >> commaSeparated anyType >> maybe (mark ",") >>
        mark "]")⟩,
    ⟨"composite literal", true,
      .ranked (-1) none ((.phrase "map type" <|> .phrase "slice type" <|> .phrase "array type" <|>
        .phrase "implicit length array type" <|> .phrase "struct type" <|> typeName <|>
        .phrase "generic type" <|> .phrase "qualified type") >> .phrase "literal value")⟩,
    ⟨"literal value", true,
      mark "\x7b" >> maybe (maybe (commaSeparated element) >> maybe (mark ",")) >> mark "\x7d"⟩,
    ⟨"literal element", true, operand <|> .phrase "literal value"⟩,
    ⟨"keyed element", true, .phrase "literal element" >> mark ":" >> .phrase "literal element"⟩,
    ⟨"func literal", true, word "func" >> parameterList >> resultType >> braces⟩,
    ⟨"unary expression", true,
      .ranked 6 none (oneOf ["+", "-", "!", "^", "*", "&", "<-"] >> operand)⟩,
    ⟨"binary expression", true,
      binary 5 productOperators <|> binary 4 sumOperators <|> binary 3 comparisonOperators <|>
        binary 2 ["&&"] <|> binary 1 ["||"]⟩,
    ⟨"qualified type", true, packageName >> mark "." >> typeName⟩,
    ⟨"interpreted string literal", true,
      .token .openingQuote >>
        many (.renamed "interpreted_string_literal_content" (.token .content) <|>
          .token .escape) >> .token .closingQuote⟩]

end Form

/-- Every phrase with its form; the first one is a whole file. -/
def definitions : List Definition :=
  Form.declarationForms ++ Form.typeForms ++ Form.statementForms ++ Form.expressionForms

end SdkGen.Go
