import SdkGen.Go.Tree

/-!
# Reading a text by a grammar

A rule is tried at a cursor. It is *matched* and gives the trees of the tokens it read; or it is
*absent*, because its first token does not stand there; or it is *refused*, because it broke off
after its first token. A choice goes on only from an absent alternative.

* `Rule.read`: reads with a bound on the depth of the reading.
-/

namespace SdkGen.Go

/-- What became of a rule. -/
inductive Outcome
  | matched (trees : List Tree) (rest : Cursor)
  | absent
  | refused
  deriving Repr

/-- Passes the blanks, up to the first line end unless `lines` lets them go on. -/
def skipBlanks (lines : Bool) (c : Cursor) : Cursor :=
  c.advance (blankLength lines c.rest)

/-- The next `n` characters as one token. -/
def takeToken (n : Nat) (c : Cursor) : Outcome :=
  .matched [.leaf (String.ofList (c.rest.take n)) c.pos] (c.advance n)

/-- Reads one token of a class, after blanks. -/
def Terminal.read (t : Terminal) (c : Cursor) : Outcome :=
  let d := skipBlanks (!t.endsLine) c
  match t.length d.rest with
  | 0 => .absent
  | n + 1 => takeToken (n + 1) d

/-- Reads one bracket character, after blanks. -/
def readBracket (ch : Char) (c : Cursor) : Outcome :=
  let d := skipBlanks true c
  if d.rest.head? = some ch then takeToken 1 d else .absent

/-- Whether one character stands after blanks. -/
def standsBefore (ch : Char) (c : Cursor) : Outcome :=
  if (skipBlanks true c).rest.head? = some ch then .matched [] c else .absent

namespace Rule

variable {ι : Type} (grammar : ι → Rule ι)

/-- Reads a rule at a cursor; the number bounds the depth of the reading. -/
def read : Nat → Rule ι → Cursor → Outcome
  | 0, _, _ => .refused
  | _ + 1, .empty, c => .matched [] c
  | _ + 1, .terminal t, c => t.read c
  | n + 1, .sequence a b, c =>
    match read n a c with
    | .matched ts d =>
      match read n b d with
      | .matched us e => .matched (ts ++ us) e
      | .absent => if ts.isEmpty then .absent else .refused
      | .refused => .refused
    | x => x
  | n + 1, .choice a b, c =>
    match read n a c with
    | .absent => read n b c
    | x => x
  | n + 1, .many r, c =>
    match read n r c with
    | .matched [] _ => .matched [] c
    | .matched (t :: ts) d =>
      match read n (.many r) d with
      | .matched us e => .matched (t :: ts ++ us) e
      | _ => .refused
    | .absent => .matched [] c
    | .refused => .refused
  | n + 1, .enclosed b inner, c =>
    match readBracket b.opening c with
    | .matched opened d =>
      match read n inner d with
      | .matched ts e =>
        match readBracket b.closing e with
        | .matched closed f => .matched (opened ++ ts ++ closed) f
        | _ => .refused
      | _ => .refused
    | x => x
  | n + 1, .node k r, c =>
    match read n r c with
    | .matched ts d => .matched (Tree.group k ts) d
    | x => x
  | n + 1, .phrase i, c => read n (grammar i) c
  | n + 1, .attempt r, c =>
    match read n r c with
    | .refused => .absent
    | x => x
  | n + 1, .look present r, c =>
    match read n r c with
    | .matched _ _ => if present then .matched [] c else .absent
    | _ => if present then .absent else .matched [] c
  | _ + 1, .sameLine, c =>
    if (skipBlanks false c).rest.head? = some '\n' then .absent else .matched [] c
  | _ + 1, .beforeOpening b, c => standsBefore b.opening c
  | _ + 1, .beforeClosing b, c => standsBefore b.closing c

end Rule

end SdkGen.Go
