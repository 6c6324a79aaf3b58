/-!
# Positions in a text

Lines and columns count from one; a column counts bytes of the UTF-8 text.

* `Position`: a line and a column.
* `Cursor`: a position together with the text from there on.
* `Cursor.advance`: steps over a number of characters.
-/

namespace SdkGen

/-- A place in a text: line and byte column, both from one. -/
structure Position where
  line : Nat
  column : Nat
  deriving DecidableEq, Repr, Inhabited

namespace Position

/-- The first place of every text. -/
def start : Position := ⟨1, 1⟩

/-- The place after one character. -/
def after (p : Position) (c : Char) : Position :=
  if c = '\n' then ⟨p.line + 1, 1⟩ else ⟨p.line, p.column + c.utf8Size⟩

/-- The place after a run of characters. -/
def afterAll (p : Position) (cs : List Char) : Position :=
  cs.foldl Position.after p

/-- Document order, strict. -/
def before (p q : Position) : Bool :=
  p.line < q.line || (p.line = q.line && p.column < q.column)

end Position

/-- What is left of a text, and where it starts. -/
structure Cursor where
  rest : List Char
  pos : Position
  deriving DecidableEq, Repr, Inhabited

namespace Cursor

/-- The whole text. -/
def ofChars (cs : List Char) : Cursor := ⟨cs, .start⟩

/-- Steps over `n` characters, or to the end when fewer are left. -/
def advance : Nat → Cursor → Cursor
  | 0, c => c
  | _ + 1, ⟨[], p⟩ => ⟨[], p⟩
  | n + 1, ⟨ch :: r, p⟩ => advance n ⟨r, p.after ch⟩

end Cursor

end SdkGen
