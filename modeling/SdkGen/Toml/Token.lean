import SdkGen.Toml.Span

/-!
# Tokens of TOML

`Token.ofText` cuts a text into tokens, and loses nothing of it but a byte order mark before it.
No text is refused: a quotation that is not closed, for one, runs up to where the next token can
be told.
-/

namespace SdkGen.Toml

/-- How a key or value is quoted. -/
inductive Quoting
  | bare
  | basic
  | literal
  | longBasic
  | longLiteral
  deriving DecidableEq, Repr, Inhabited

/-- The classes of tokens. -/
inductive TokenKind
  | dot
  | equals
  | comma
  | openSquare
  | closeSquare
  | openCurly
  | closeCurly
  | blank
  | newline
  | comment
  | text (quoting : Quoting)
  /-- The end of the whole text. -/
  | stop
  deriving DecidableEq, Repr, Inhabited

/-- A token and its place. -/
structure Token where
  kind : TokenKind
  chars : List Char
  span : Span
  deriving DecidableEq, Repr, Inhabited

namespace Token

/-- Blanks of a line. -/
def isBlank (c : Char) : Bool := c = ' ' || c = '\t'

/-- Characters with which a token of another class can start, or that none contains. -/
def endsBare (c : Char) : Bool := ".=,[]{} \t#\r\n".toList.contains c

/-- Length of the rest of a quotation that ends at the line's end at the latest. -/
def closeLength (quote : Char) (escapes : Bool) : List Char → Nat
  | [] => 0
  | [c] => if c = '\n' then 0 else 1
  | c :: d :: r =>
    if c = '\n' then 0
    else if c = quote then 1
    else if escapes && c = '\\' && (d = '\\' || d = quote) then 2 + closeLength quote escapes r
    else 1 + closeLength quote escapes (d :: r)

/-- How many more of the quotation marks stand here, at most two. -/
def extraQuotes (quote : Char) (cs : List Char) : Nat :=
  ((cs.take 2).takeWhile (· = quote)).length

/-- Length of the rest of a quotation over lines; it ends with three to five marks. -/
def longCloseLength (quote : Char) (escapes : Bool) : List Char → Nat
  | [] => 0
  | [_] => 1
  | c :: d :: r =>
    if c = quote && (d :: r).take 2 = [quote, quote] then
      3 + extraQuotes quote (r.drop 1)
    else if escapes && c = '\\' && (d = '\\' || d = quote) then
      2 + longCloseLength quote escapes r
    else 1 + longCloseLength quote escapes (d :: r)

/-- The class of the token that starts with a character, and how many more characters it has. -/
def first (c : Char) (r : List Char) : TokenKind × Nat :=
  match c with
  | '.' => (.dot, 0)
  | '=' => (.equals, 0)
  | ',' => (.comma, 0)
  | '[' => (.openSquare, 0)
  | ']' => (.closeSquare, 0)
  | '{' => (.openCurly, 0)
  | '}' => (.closeCurly, 0)
  | ' ' => (.blank, (r.takeWhile isBlank).length)
  | '\t' => (.blank, (r.takeWhile isBlank).length)
  | '\n' => (.newline, 0)
  | '\r' => (.newline, if r.head? = some '\n' then 1 else 0)
  | '#' => (.comment, (r.takeWhile fun d => d ≠ '\n' && d ≠ '\r').length)
  | '"' =>
    if r.take 2 = ['"', '"'] then (.text .longBasic, 2 + longCloseLength '"' true (r.drop 2))
    else (.text .basic, closeLength '"' true r)
  | '\'' =>
    if r.take 2 = ['\'', '\''] then
      (.text .longLiteral, 2 + longCloseLength '\'' false (r.drop 2))
    else (.text .literal, closeLength '\'' false r)
  | _ => (.text .bare, (r.takeWhile fun d => !endsBare d).length)

/-- The tokens of a text that starts at a byte offset; the last of them is its end. -/
def scan (start : Nat) : List Char → List Token
  | [] => [⟨.stop, [], ⟨start, start⟩⟩]
  | c :: r =>
    let (kind, more) := first c r
    let chars := c :: r.take more
    let stop := start + Fault.byteLength chars
    ⟨kind, chars, ⟨start, stop⟩⟩ :: scan stop (r.drop more)
termination_by cs => cs.length
decreasing_by simp only [List.length_cons, List.length_drop]; omega

/-- The mark that may stand before a text, and is no part of it. -/
def byteOrderMark : Char := '\uFEFF'

/-- The tokens of a whole text. -/
def ofText (text : String) : List Token :=
  match text.toList with
  | [] => scan 0 []
  | c :: cs => if c = byteOrderMark then scan c.utf8Size cs else scan 0 (c :: cs)

end Token

end SdkGen.Toml
