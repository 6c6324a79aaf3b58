/-!
# Tokens of Go

* `Token`: the classes of tokens.
* `Token.all`: all of them, in the order in which a missing one is looked for.
* `Token.name`: the name by which a missing token is reported.
-/

namespace SdkGen.Go

/-- A class of tokens. A string literal between double quotes is read in parts. -/
inductive Token
  | endOfText
  /-- A word that is not taken for a reserved one. -/
  | word
  /-- A word with a meaning of its own where it may stand. -/
  | reserved (text : String)
  /-- Punctuation or an operator. -/
  | mark (text : String)
  | lineEnd
  /-- The character of code zero, which also stands at the end of the text. -/
  | nul
  | rawText
  | openingQuote
  /-- Characters between double quotes. -/
  | content
  /-- A backslash and what it escapes, between double quotes. -/
  | escape
  | closingQuote
  | integer
  | floating
  | imaginary
  | rune
  | comment
  deriving DecidableEq, Repr, Inhabited

namespace Token

/-- All tokens, in the order in which a missing one is looked for. -/
def all : List Token :=
  [.endOfText, .word, .lineEnd, .mark ";", .nul, .reserved "package", .reserved "import",
    .mark ".", .reserved "_", .mark "(", .mark ")", .reserved "const", .mark ",", .mark "=",
    .reserved "var", .reserved "func", .mark "[", .mark "]", .mark "...", .reserved "type",
    .mark "*", .reserved "struct", .mark "~", .mark "\x7b", .mark "\x7d", .reserved "interface",
    .mark "|", .reserved "map", .reserved "chan", .mark "<-", .mark ":=", .mark "++", .mark "--",
    .mark "*=", .mark "/=", .mark "%=", .mark "<<=", .mark ">>=", .mark "&=", .mark "&^=",
    .mark "+=", .mark "-=", .mark "|=", .mark "^=", .mark ":", .reserved "fallthrough",
    .reserved "break", .reserved "continue", .reserved "goto", .reserved "return", .reserved "go",
    .reserved "defer", .reserved "if", .reserved "else", .reserved "for", .reserved "range",
    .reserved "switch", .reserved "case", .reserved "default", .reserved "select",
    .reserved "new", .reserved "make", .mark "+", .mark "-", .mark "!", .mark "^", .mark "&",
    .mark "/", .mark "%", .mark "<<", .mark ">>", .mark "&^", .mark "==", .mark "!=", .mark "<",
    .mark "<=", .mark ">", .mark ">=", .mark "&&", .mark "||", .rawText, .openingQuote, .content,
    .closingQuote, .escape, .integer, .floating, .imaginary, .rune, .reserved "nil",
    .reserved "true", .reserved "false", .reserved "iota", .comment]

/-- The name by which a missing token is reported. -/
def name : Token → String
  | endOfText => "end"
  | word => "identifier"
  | reserved "_" => "blank_identifier"
  | reserved text => text
  | mark text => text
  | lineEnd => "\n"
  | nul => "\x00"
  | rawText => "raw_string_literal"
  | openingQuote => "\""
  | content => "interpreted_string_literal_content"
  | escape => "escape_sequence"
  | closingQuote => "\""
  | integer => "int_literal"
  | floating => "float_literal"
  | imaginary => "imaginary_literal"
  | rune => "rune_literal"
  | comment => "comment"

/-- Whether a token makes a node of its own; line ends, the end and quoted characters do not. -/
def isShown : Token → Bool
  | endOfText => false
  | lineEnd => false
  | content => false
  | _ => true

end Token

end SdkGen.Go
