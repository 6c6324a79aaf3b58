import SdkGen.Go.Mending.Piece
import SdkGen.Go.Mending.Scan

/-!
# Leaves of a mended text

The tokens of a piece in the order of the text. The search is not trusted here: each token is read
again where it stands, as the scanner has to read it there.

* `Leaf`: a token, with what stands before it.
* `Piece.leaves`: the tokens of a piece.
* `followed`: whether a text is made of some leaves.
-/

namespace SdkGen.Go

namespace Token

/-- Whether the first characters of a text are a lexeme of the class. -/
def spells (t : Token) (length : Nat) (cs : List Char) : Bool :=
  match t with
  | endOfText => length = 0 && cs.isEmpty
  | nul => if length = 0 then cs.isEmpty else t.length cs = length
  | reserved w => wordLength cs = length && String.ofList (cs.take length) = w
  | _ => length ≠ 0 && t.length cs = length

end Token

/-- A token that was read. -/
structure Leaf where
  token : Token
  /-- A comment, or the end of the text. -/
  extra : Bool
  /-- How many characters stand between the leaf before and this one. -/
  blank : Nat
  length : Nat
  deriving DecidableEq, Repr

/-- Whether a part of a string literal stands at the start of a text. -/
def standsPart (cs : List Char) : Bool :=
  [Token.content, .escape, .closingQuote].any fun t => t.length cs ≠ 0

namespace Leaf

/-- Whether a leaf stands at the start of a text. Between double quotes a comment is read only
where no part of the literal stands, and elsewhere another token only where no comment stands. -/
def fits (quoted : Bool) (l : Leaf) (cs : List Char) : Bool :=
  let rest := cs.drop l.blank
  l.token.spells l.length rest && (!l.extra || l.token = .comment || l.token = .endOfText) &&
    if l.token.isAttached then quoted && l.blank = 0
    else if quoted then
      l.token = .comment && !standsPart cs && (cs.take l.blank).all isSpace
    else (l.token = .comment || commentLength rest = 0) && (cs.take l.blank).all isPassedOver

/-- Whether a double quote is open behind the leaf. -/
def leavesQuoted (quoted : Bool) (l : Leaf) : Bool :=
  match l.token with
  | .openingQuote => true
  | .closingQuote => false
  | _ => quoted

end Leaf

/-- Whether a text is made of some leaves and what stands before them. -/
def followed : Bool → List Leaf → List Char → Bool
  | quoted, [], cs => !quoted && cs.isEmpty
  | quoted, l :: ls, cs =>
    l.fits quoted cs && followed (l.leavesQuoted quoted) ls (cs.drop (l.blank + l.length))

namespace Piece

mutual

/-- The tokens of a piece; one that is missing is none. -/
def leaves (m : Machine) : Piece → List Leaf
  | ⟨label, before, size, extra, missing, _, _, _, _, _, _, _, parts⟩ =>
    match label with
    | .symbol symbol =>
      match m.numbering.tokens[symbol]? with
      | some t => if missing then [] else [⟨t, extra, before.chars, size.chars⟩]
      | none => leavesAmong m parts
    | _ => leavesAmong m parts

/-- The tokens of pieces that follow one another. -/
def leavesAmong (m : Machine) : List Piece → List Leaf
  | [] => []
  | p :: ps => leaves m p ++ leavesAmong m ps

end

end Piece

end SdkGen.Go
