import SdkGen.Text.Position
import SdkGen.Go.Lexeme

/-!
# Rules of a grammar

A grammar is data: rules over terminals, brackets and named phrases. An opening bracket occurs in
a rule only together with its closing one.

* `Terminal`: the classes of tokens other than brackets.
* `Bracket`: the three pairs of brackets.
* `Rule`: sequences, choices, repetitions, bracketed parts, nodes of the tree and phrases.
-/

namespace SdkGen.Go

/-- The three pairs of brackets. -/
inductive Bracket
  | round
  | square
  | curly
  deriving DecidableEq, Repr

namespace Bracket

/-- The opening character. -/
def opening : Bracket → Char
  | round => '('
  | square => '['
  | curly => '{'

/-- The closing character. -/
def closing : Bracket → Char
  | round => ')'
  | square => ']'
  | curly => '}'

end Bracket

/-- A class of tokens. -/
inductive Terminal
  /-- An identifier that is no keyword. -/
  | word
  /-- A given word. -/
  | keyword (text : String)
  /-- One of some marks. -/
  | mark (wanted : List String)
  /-- A numeric literal. -/
  | number
  /-- A rune literal. -/
  | rune
  /-- An interpreted or raw string literal. -/
  | text
  /-- The first line end, semicolon or NUL. -/
  | terminator
  deriving DecidableEq, Repr

/-- The keywords. -/
def keywords : List String :=
  ["break", "case", "chan", "const", "continue", "default", "defer", "else", "fallthrough", "for",
    "func", "go", "goto", "if", "import", "interface", "map", "package", "range", "return",
    "select", "struct", "switch", "type", "var"]

/-- All marks besides brackets. The longest one that a text starts with is read. -/
def marks : List String :=
  ["+", "-", "*", "/", "%", "&", "|", "^", "<<", ">>", "&^", "+=", "-=", "*=", "/=", "%=", "&=",
    "|=", "^=", "<<=", ">>=", "&^=", "&&", "||", "<-", "++", "--", "==", "<", ">", "=", "!", "~",
    "!=", "<=", ">=", ":=", "...", ",", ";", ".", ":"]

/-- The longest of some marks that the text starts with. -/
def longestMark (marks : List String) (cs : List Char) : String :=
  marks.foldl (fun best m =>
    if m.toList.isPrefixOf cs && best.length < m.length then m else best) ""

/-- Length of a line end, semicolon or NUL. -/
def terminatorLength : List Char → Nat :=
  charLength fun c => c = '\n' || c = ';' || c = '\x00'

namespace Terminal

/-- A line end is a token of this class. -/
def endsLine : Terminal → Bool
  | terminator => true
  | _ => false

/-- Length of the terminal's lexeme at the start of a text, zero where there is none. -/
def length : Terminal → List Char → Nat
  | .word, cs =>
    let n := wordLength cs
    if keywords.contains (String.ofList (cs.take n)) then 0 else n
  | .keyword w, cs =>
    let n := wordLength cs
    if cs.take n == w.toList then n else 0
  | .mark wanted, cs =>
    let m := longestMark marks cs
    if wanted.contains m then m.length else 0
  | .number, cs => numberLength cs
  | .rune, cs => runeLength cs
  | .text, cs => max (textLength cs) (rawTextLength cs)
  | .terminator, cs => terminatorLength cs

end Terminal

/-- Kinds of nodes of a syntax tree. -/
inductive Kind
  | packageClause | importDeclaration | constDeclaration | varDeclaration | typeDeclaration
  | functionDeclaration | methodDeclaration
  | returnStatement | ifStatement | forStatement | switchStatement | selectStatement
  | goStatement | deferStatement | breakStatement | continueStatement | gotoStatement
  | fallthroughStatement | labeledStatement | emptyStatement | block
  /-- A statement without a keyword; the operator after its first operands tells which. -/
  | simpleStatement
  /-- Operands of a simple statement. -/
  | operand
  | typeSpec | typeParameters | parameterList | field | embeddedField
  /-- A type's name with the arguments it is applied to, if any. -/
  | appliedType
  | typeName | qualifiedType | pointerType | parenthesizedType | structType | interfaceType
  | mapType | channelType | functionType | sliceType | arrayType | negatedType
  deriving DecidableEq, Repr

/-- A grammar rule over phrases named by `ι`. -/
inductive Rule (ι : Type) : Type
  /-- Nothing. -/
  | empty
  | terminal (t : Terminal)
  | sequence (first second : Rule ι)
  /-- The second only where the first is absent. -/
  | choice (first second : Rule ι)
  /-- As often as present. -/
  | many (r : Rule ι)
  /-- A part between an opening and a closing bracket. -/
  | enclosed (b : Bracket) (inner : Rule ι)
  /-- A node of the tree over what the rule reads. -/
  | node (k : Kind) (r : Rule ι)
  | phrase (i : ι)
  /-- Absent, instead of refused, where the rule breaks off. -/
  | attempt (r : Rule ι)
  /-- Reads nothing; present where the rule is present, or absent, as `present` says. -/
  | look (present : Bool) (r : Rule ι)
  /-- Reads nothing; present where no line end stands before the next token. -/
  | sameLine
  /-- Reads nothing; present before the opening bracket. -/
  | beforeOpening (b : Bracket)
  /-- Reads nothing; present before the closing bracket. -/
  | beforeClosing (b : Bracket)
  deriving DecidableEq, Repr

namespace Rule

variable {ι : Type}

instance : AndThen (Rule ι) := ⟨fun a b => a.sequence (b ())⟩

instance : OrElse (Rule ι) := ⟨fun a b => a.choice (b ())⟩

/-- Present or not. -/
def maybe (r : Rule ι) : Rule ι := r.choice .empty

/-- A given mark. -/
def mark (text : String) : Rule ι := .terminal (.mark [text])

/-- A given word. -/
def keyword (text : String) : Rule ι := .terminal (.keyword text)

/-- One or more, with commas between them. -/
def commaSeparated (r : Rule ι) : Rule ι := r >> .many (mark "," >> r)

/-- Items with commas between them, none or more, and a comma after the last one if wanted. -/
def listed (r : Rule ι) : Rule ι :=
  maybe (r >> .many (.attempt (mark "," >> r))) >> maybe (mark ",")

/-- Items with terminators between them, and one after the last if wanted. -/
def terminated (r : Rule ι) : Rule ι :=
  maybe (r >> .many (.attempt (.terminal .terminator >> r)) >>
    maybe (.terminal .terminator))

/-- Goes on with a rule; where lines end the construct, only on the same line. -/
def continued (lines : Bool) (r : Rule ι) : Rule ι :=
  if lines then .sameLine >> r else r

end Rule

end SdkGen.Go
