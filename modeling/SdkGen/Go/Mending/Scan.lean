import SdkGen.Go.Automaton.Machine
import SdkGen.Go.Lexeme

/-!
# Scanning a token

The scanner passes blanks and takes the longest token among those that it looks for. Comments are
tokens here. Where no token can be read, characters are stray.

* `scan`: the next token of a mode, or how far the scanner looked.
* `strayLength`: how many characters are stray.
-/

namespace SdkGen.Go

/-- The mark that some editors put at the start of a text. -/
def byteOrderMark : Char := '\uFEFF'

/-- A character that may stand before a token: white space, or a mark at the start of the text. -/
def isPassedOver (c : Char) : Bool := isSpace c || c = byteOrderMark

/-- A token that was read after some blanks; without a token, the length is what was looked at. -/
structure Scanned where
  token : Option Nat
  blank : Nat
  length : Nat

/-- Length of an imaginary literal. -/
def imaginaryLength (cs : List Char) : Nat :=
  let marked := fun n => andThen n (charLength (· = 'i')) cs
  max (marked (max (integerLength cs) (floatLength cs))) (marked (digitsLength Char.isDigit cs))

/-- Length of a backslash and what it escapes between double quotes. -/
def escapeLength : List Char → Nat
  | '\\' :: c :: r =>
    if escapes (c :: r) then
      if c = 'x' then 2 + (r.takeWhile isHexDigit).length
      else if c = 'u' then 6
      else if c = 'U' then 10
      else 2
    else 0
  | _ => 0

namespace Token

/-- Length of a lexeme of the class at the start of a text. Reserved words are read as words. -/
def length : Token → List Char → Nat
  | endOfText, _ => 0
  | word, cs => wordLength cs
  | reserved _, _ => 0
  | mark m, cs => if m.toList.isPrefixOf cs then m.length else 0
  | lineEnd, cs => charLength (· = '\n') cs
  | nul, cs => charLength (· = '\x00') cs
  | rawText, cs => rawTextLength cs
  | openingQuote, cs => charLength (· = '"') cs
  | content, cs => (cs.takeWhile fun c => c ≠ '"' && c ≠ '\n' && c ≠ '\\').length
  | escape, cs => escapeLength cs
  | closingQuote, cs => charLength (· = '"') cs
  | integer, cs => integerLength cs
  | floating, cs => floatLength cs
  | imaginary, cs => imaginaryLength cs
  | rune, cs => runeLength cs
  | comment, cs => commentLength cs

/-- A token that may only stand directly after the one before it. -/
def isAttached : Token → Bool
  | content => true
  | escape => true
  | closingQuote => true
  | _ => false

/-- How far the scanner looks for a quoted literal that is not one. -/
def lookedAt : Token → List Char → Nat
  | rune, '\'' :: c :: _ => if c = '\'' then 1 else 2
  | rune, ['\''] => 1
  | rawText, '\x60' :: r => 1 + r.length
  | _, _ => 0

end Token

namespace Machine

/-- Of two lexemes the longer one; the first of two equals. -/
def longer (best : Option (Nat × Nat)) (token length : Nat) : Option (Nat × Nat) :=
  match length, best with
  | 0, _ => best
  | _, none => some (token, length)
  | _, some (t, n) => if n < length then some (token, length) else some (t, n)

/-- The longest token among some numbers. -/
def longestToken (m : Machine) (numbers : List Nat) (cs : List Char) : Option (Nat × Nat) :=
  numbers.foldl (fun best t => longer best t (m.numbering.tokens[t]!.length cs)) none

/-- The next token of a mode, not at the start of the text. -/
def scanWithin (m : Machine) (mode : TokenSet) (cs : List Char) : Scanned :=
  let wanted := mode.toList m.numbering.tokens.size
  let token (t : Nat) := m.numbering.tokens[t]!
  let (attached, free) := wanted.partition fun t => (token t).isAttached
  match m.longestToken attached cs with
  | some (t, n) => ⟨some t, 0, n⟩
  | none =>
    let lines := wanted.contains (m.numbering.ofToken .lineEnd)
    let blank := (cs.takeWhile fun c => isSpace c && !(lines && c = '\n')).length
    let rest := cs.drop blank
    if rest.isEmpty then
      ⟨wanted.find? fun t => token t = .endOfText || token t = .nul, blank, 0⟩
    else match m.longestToken free rest with
      | some (t, n) => ⟨some t, blank, n⟩
      | none => ⟨none, blank, free.foldl (fun far t => max far ((token t).lookedAt rest)) 0⟩

/-- The next token of a mode. At the start of the text a byte order mark is passed over. -/
def scan (m : Machine) (mode : TokenSet) (atStart : Bool) (cs : List Char) : Scanned :=
  if atStart && cs.head? = some byteOrderMark then
    let s := m.scanWithin mode cs.tail
    { s with blank := s.blank + 1 }
  else m.scanWithin mode cs

/-- The mode of a state; without a state the text is in error. -/
def mode (m : Machine) (state : Option Nat) : TokenSet :=
  match state with
  | some s => m.modes.tokens[m.modes.ofState[s]!]!
  | none => m.modes.tokens[0]!

/-- How many characters are stray, when `looked` characters have been looked at and `stray` of
them are known to be stray. -/
def strayLength (m : Machine) (cs : List Char) : Nat → Nat → Nat → Nat
  | 0, _, stray => stray
  | fuel + 1, looked, stray =>
    if looked = stray && (cs.drop looked).isEmpty then stray
    else
      let stray := if looked = stray then looked + 1 else looked
      let next := m.scanWithin (m.mode none) (cs.drop stray)
      match next.token with
      | some _ => stray
      | none => strayLength m cs fuel (stray + next.blank + next.length) stray

end Machine

end SdkGen.Go
