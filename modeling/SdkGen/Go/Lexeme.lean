import SdkGen.Text.Identifier

/-!
# Lexemes of Go

Each function gives the length of the longest lexeme of one class at the start of a text, and
zero where there is none.

* `wordLength`: identifiers and keywords.
* `numberLength`: integer, floating-point and imaginary literals.
* `runeLength`, `textLength`, `rawTextLength`: the quoted literals.
* `commentLength`: a comment of either form.
* `blankLength`: all that may stand between two tokens.
-/

namespace SdkGen.Go

/-! ## Words -/

/-- Length of the identifier or keyword that starts here. -/
def wordLength : List Char → Nat
  | [] => 0
  | c :: r =>
    if c = '_' || Identifier.isStart c then 1 + (r.takeWhile Identifier.isContinue).length else 0

/-! ## Numbers -/

/-- A digit of base sixteen, in either case. -/
def isHexDigit (c : Char) : Bool :=
  c.isDigit || ('a' ≤ c && c ≤ 'f') || ('A' ≤ c && c ≤ 'F')

/-- A digit of base eight. -/
def isOctalDigit (c : Char) : Bool := '0' ≤ c && c ≤ '7'

/-- A digit of base two. -/
def isBinaryDigit (c : Char) : Bool := c = '0' || c = '1'

/-- Digits, each with at most one underscore before it. -/
def joinedDigits (digit : Char → Bool) : List Char → Nat
  | [] => 0
  | [c] => if digit c then 1 else 0
  | c :: d :: r =>
    if digit c then 1 + joinedDigits digit (d :: r)
    else if c = '_' && digit d then 2 + joinedDigits digit r
    else 0

/-- Length of a run of digits in which single underscores may stand between two digits. -/
def digitsLength (digit : Char → Bool) : List Char → Nat
  | [] => 0
  | c :: r => if digit c then 1 + joinedDigits digit r else 0

/-- Adds the length of what follows, if there is any of it. -/
def andThen (n : Nat) (next : List Char → Nat) (cs : List Char) : Nat :=
  match n with
  | 0 => 0
  | n => match next (cs.drop n) with
    | 0 => 0
    | m => n + m

/-- Adds the length of what follows, which may be nothing. -/
def andMaybe (n : Nat) (next : List Char → Nat) (cs : List Char) : Nat :=
  match n with
  | 0 => 0
  | n => n + next (cs.drop n)

/-- One character of a class. -/
def charLength (p : Char → Bool) : List Char → Nat
  | c :: _ => if p c then 1 else 0
  | [] => 0

/-- A zero and a base letter. -/
def baseMark (lower upper : Char) : List Char → Nat
  | '0' :: c :: _ => if c = lower || c = upper then 2 else 0
  | _ => 0

/-- Digits after a base mark; an underscore may stand before the first of them. -/
def markedDigits (digit : Char → Bool) : List Char → Nat
  | '_' :: r => match digitsLength digit r with
    | 0 => 0
    | n => 1 + n
  | cs => digitsLength digit cs

/-- Longest integer literal. -/
def integerLength (cs : List Char) : Nat :=
  let binary := andThen (baseMark 'b' 'B' cs) (markedDigits isBinaryDigit) cs
  let hex := andThen (baseMark 'x' 'X' cs) (markedDigits isHexDigit) cs
  let octal := andThen (baseMark 'o' 'O' cs) (markedDigits isOctalDigit) cs
  let zeroOctal := andThen (charLength (· = '0') cs) (markedDigits isOctalDigit) cs
  let bare := charLength (· = '0') cs
  let decimal := andMaybe (charLength (fun c => '1' ≤ c && c ≤ '9') cs)
    (markedDigits Char.isDigit) cs
  [binary, hex, octal, zeroOctal, bare, decimal].foldl max 0

/-- An exponent: its letter, a sign or none, and decimal digits. -/
def exponentLength (lower upper : Char) : List Char → Nat
  | [] => 0
  | c :: r =>
    if c = lower || c = upper then
      let sign := charLength (fun d => d = '+' || d = '-') r
      match digitsLength Char.isDigit (r.drop sign) with
      | 0 => 0
      | n => 1 + sign + n
    else 0

/-- Longest floating-point literal. -/
def floatLength (cs : List Char) : Nat :=
  let whole := digitsLength Char.isDigit cs
  let point := charLength (· = '.')
  let decimalExponent := exponentLength 'e' 'E'
  let wholePoint := andMaybe (andMaybe (andThen whole point cs)
    (digitsLength Char.isDigit) cs) decimalExponent cs
  let wholeExponent := andThen whole decimalExponent cs
  let pointDigits := andMaybe (andThen (point cs) (digitsLength Char.isDigit) cs)
    decimalExponent cs
  let mark := baseMark 'x' 'X' cs
  let hexWhole := andThen mark (markedDigits isHexDigit) cs
  let hexPoint := andMaybe (andThen hexWhole point cs) (digitsLength isHexDigit) cs
  let hexFraction := andThen (andThen mark point cs) (digitsLength isHexDigit) cs
  let hexExponent := fun n => andThen n (exponentLength 'p' 'P') cs
  [wholePoint, wholeExponent, pointDigits, hexExponent hexWhole, hexExponent hexPoint,
    hexExponent hexFraction].foldl max 0

/-- Longest numeric literal; an `i` makes it imaginary. -/
def numberLength (cs : List Char) : Nat :=
  let plain := max (integerLength cs) (floatLength cs)
  let imaginary := fun n => andThen n (charLength (· = 'i')) cs
  max plain (max (imaginary plain) (imaginary (digitsLength Char.isDigit cs)))

/-! ## Quoted literals -/

/-- Exactly `n` digits of a class. -/
def exactDigits (n : Nat) (digit : Char → Bool) (cs : List Char) : Nat :=
  if (cs.take n).length = n && (cs.take n).all digit then n else 0

/-- An escape of a rune literal, without its backslash. -/
def runeEscape : List Char → Nat
  | [] => 0
  | c :: r =>
    if c = 'x' then andThen 1 (exactDigits 2 isHexDigit) (c :: r)
    else if c = 'u' then andThen 1 (exactDigits 4 isHexDigit) (c :: r)
    else if c = 'U' then andThen 1 (exactDigits 8 isHexDigit) (c :: r)
    else if isOctalDigit c then exactDigits 3 isOctalDigit (c :: r)
    else if "abfnrtv\\'\"".toList.contains c then 1
    else 0

/-- A rune literal: one character or escape between single quotes. -/
def runeLength : List Char → Nat
  | '\'' :: c :: r =>
    let body := if c = '\\' then andThen 1 runeEscape (c :: r)
      else if c = '\'' then 0 else 1
    match andThen body (charLength (· = '\'')) (c :: r) with
    | 0 => 0
    | n => 1 + n
  | _ => 0

/-- Whether a backslash may stand before this text inside an interpreted literal: `x`, `u` and
`U` need their digits, any other character may follow. -/
def escapes : List Char → Bool
  | [] => false
  | c :: r =>
    if c = 'x' then exactDigits 2 isHexDigit r ≠ 0
    else if c = 'u' then exactDigits 4 isHexDigit r ≠ 0
    else if c = 'U' then exactDigits 8 isHexDigit r ≠ 0
    else true

/-- The rest of an interpreted literal with its closing quote; `none` where it does not close. -/
def textTail : List Char → Option Nat
  | [] => none
  | '"' :: _ => some 1
  | '\\' :: c :: r => if escapes (c :: r) then (textTail r).map (2 + ·) else none
  | '\\' :: [] => none
  | c :: r => if c = '\n' then none else (textTail r).map (1 + ·)

/-- Length of what an interpreted literal holds after its opening quote, as far as it goes. -/
def textBody : List Char → Nat
  | [] => 0
  | '"' :: _ => 0
  | '\\' :: c :: r => if escapes (c :: r) then 2 + textBody r else 0
  | '\\' :: [] => 0
  | c :: r => if c = '\n' then 0 else 1 + textBody r

/-- An interpreted string literal. -/
def textLength : List Char → Nat
  | '"' :: r => match textTail r with
    | some n => 1 + n
    | none => 0
  | _ => 0

/-- A raw string literal. -/
def rawTextLength : List Char → Nat
  | '\x60' :: r =>
    let n := (r.takeWhile (· ≠ '\x60')).length
    if n < r.length then n + 2 else 0
  | _ => 0

/-! ## Blanks -/

/-- Length of a block comment's rest up to and with its end; `none` where it is left open. -/
def blockTail : List Char → Option Nat
  | '*' :: '/' :: _ => some 2
  | _ :: r => (blockTail r).map (1 + ·)
  | [] => none

/-- A comment: to the end of the line, or a closed block. -/
def commentLength : List Char → Nat
  | '/' :: '/' :: r => 2 + (r.takeWhile (· ≠ '\n')).length
  | '/' :: '*' :: r => match blockTail r with
    | some n => 2 + n
    | none => 0
  | _ => 0

/-- White space between tokens. -/
def isSpace (c : Char) : Bool :=
  ('\t' ≤ c && c ≤ '\r') || c = ' '

/-- Length of the blanks that start here: white space and comments, up to the first line end
outside a comment unless `lines` lets them go on. The first argument counts the characters of an
already recognised comment that are still to be passed. -/
def blankLengthFrom (lines : Bool) : Nat → List Char → Nat
  | _, [] => 0
  | k + 1, _ :: r => 1 + blankLengthFrom lines k r
  | 0, c :: r =>
    if isSpace c && (lines || c ≠ '\n') then 1 + blankLengthFrom lines 0 r
    else match commentLength (c :: r) with
      | 0 => 0
      | n + 1 => 1 + blankLengthFrom lines n r

/-- Length of the blanks that start here. -/
def blankLength (lines : Bool) (cs : List Char) : Nat :=
  blankLengthFrom lines 0 cs

end SdkGen.Go
