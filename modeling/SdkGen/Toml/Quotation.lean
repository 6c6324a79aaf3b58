import SdkGen.Toml.Expression

/-!
# Quoted texts of TOML

`Raw.quoted` is the text between the quotation marks, or the fault that stands first in it. In a
text over several lines a backslash at the end of a line skips the blanks and line ends after it.
-/

namespace SdkGen.Toml.Raw

open Expression (isPrintable strayReturn)

/-! ## Escapes -/

/-- The value of a digit of base sixteen. -/
def hexValue (c : Char) : Option Nat :=
  if c.isDigit then some (c.toNat - 48)
  else if 'a' ≤ c && c ≤ 'f' then some (c.toNat - 87)
  else if 'A' ≤ c && c ≤ 'F' then some (c.toNat - 55)
  else none

/-- The character with a code, if there is one. -/
def charOfCode (n : Nat) : Option Char :=
  if n < 0xD800 || (0xDFFF < n && n < 0x110000) then some (Char.ofNat n) else none

/-- The characters that may follow a backslash, as a fault lists them. -/
def escapeMarks : List String :=
  ["`b`", "`e`", "`f`", "`n`", "`r`", "`\\`", "`\"`", "`x`", "`u`", "`U`"]

/-- The character of a short escape. -/
def shortEscape (c : Char) : Option Char :=
  match c with
  | 'b' => some '\x08'
  | 'e' => some '\x1b'
  | 'f' => some '\x0c'
  | 'n' => some '\n'
  | 'r' => some '\r'
  | 't' => some '\t'
  | '\\' => some '\\'
  | '"' => some '"'
  | _ => none

/-- How many digits an escape by code has. -/
def codeLength (c : Char) : Nat :=
  match c with
  | 'x' => 2
  | 'u' => 4
  | 'U' => 8
  | _ => 0

/-- The character that digits of base sixteen name. -/
def codeValue (ds : List Char) : Option Char :=
  charOfCode (ds.foldl (fun n c => 16 * n + (hexValue c).getD 0) 0)

/-- The character that an escape names, and the length of the escape after its backslash; the
backslash stands just before the index. -/
def escape (r : Raw) (index : Nat) (cs : List Char) : Except Fault (Char × Nat) :=
  let unknown := Except.error (r.faultAt index 0 "missing escaped value" escapeMarks)
  match cs with
  | [] => unknown
  | c :: rest =>
    match shortEscape c, codeLength c with
    | some d, _ => .ok (d, 1)
    | none, 0 => unknown
    | none, n =>
      let ds := (rest.take n).takeWhile fun d => (hexValue d).isSome
      let code := fun text => r.faultAt (index + 1) 0 text ["unicode hexadecimal value"]
      if ds.length < n then .error (code "too few unicode value digits")
      else match codeValue ds with
        | some d => .ok (d, n + 1)
        | none => .error (code "invalid value")

/-! ## Line ends -/

/-- How many characters a backslash at the end of a line skips: the blanks and line ends after
it, of which the first is `index`. -/
def skipBreaks (r : Raw) (index : Nat) (passed : Bool) : List Char → Except Fault Nat
  | [] => if passed then .ok 0 else noBreak
  | c :: cs =>
    if Token.isBlank c then return 1 + (← skipBreaks r (index + 1) passed cs)
    else if c = '\n' then return 1 + (← skipBreaks r (index + 1) true cs)
    else if c = '\r' then
      if cs.head? = some '\n' then return 1 + (← skipBreaks r (index + 1) passed cs)
      else .error (strayReturn (r.place (index + 1) 0))
    else if passed then .ok 0
    else noBreak
where
  noBreak : Except Fault Nat :=
    .error (r.faultAt index 0 "invalid multi-line basic string" ["newline"])

/-- A fault at the characters from an index on that may not stand in the text. -/
def unprintable (r : Raw) (index : Nat) (isSound : Char → Bool) (cs : List Char) (text : String)
    (expected : List String) : Fault :=
  r.faultAt index (cs.takeWhile (!isSound ·)).length text expected

/-! ## Texts -/

/-- The text of a quotation with escapes, from an index on. -/
def unescape (r : Raw) (isLong : Bool) (index : Nat) : List Char → Except Fault (List Char)
  | [] => .ok []
  | '\\' :: cs =>
    if isLong && (cs.head?.map fun c => Token.isBlank c || c = '\n' || c = '\r').getD false then do
      let n ← r.skipBreaks (index + 1) false cs
      unescape r isLong (index + 1 + n) (cs.drop n)
    else do
      let (c, n) ← r.escape (index + 1) cs
      return c :: (← unescape r isLong (index + 1 + n) (cs.drop n))
  | c :: cs =>
    if isPrintable c || (isLong && c = '\n') then do
      return c :: (← unescape r isLong (index + 1) cs)
    else if isLong && c = '\r' then
      if cs.head? = some '\n' then do return c :: (← unescape r isLong (index + 1) cs)
      else .error (strayReturn (r.place (index + 1) 0))
    else .error (if isLong then
        r.unprintable index (fun d => isPrintable d || d = '\n' || d = '\r') (c :: cs)
          "invalid multi-line basic string" ["`\\`", "characters"]
      else
        r.unprintable index isPrintable (c :: cs) "invalid basic string"
          ["non-double-quote visible characters", "`\\`"])
termination_by cs => cs.length
decreasing_by all_goals simp only [List.length_cons, List.length_drop]; omega

/-- The text of a quotation without escapes, from an index on. -/
def verbatim (r : Raw) (isLong : Bool) (index : Nat) : List Char → Except Fault (List Char)
  | [] => .ok []
  | c :: cs =>
    if isPrintable c || (isLong && c = '\n') then do
      return c :: (← verbatim r isLong (index + 1) cs)
    else if isLong && c = '\r' then
      if cs.head? = some '\n' then do return c :: (← verbatim r isLong (index + 1) cs)
      else .error (strayReturn (r.place (index + 1) 0))
    else .error (if isLong then
        r.faultAt index 0 "invalid multi-line literal string" ["non-single-quote characters"]
      else
        r.faultAt index 0 "invalid literal string" ["non-single-quote visible characters"])

/-- What stands between the quotation marks, and its index. -/
def inner (r : Raw) (marks : Nat) (name mark : String) : Except Fault (Nat × List Char) :=
  let body := r.chars.drop marks
  let quote := r.chars.take marks
  if body.length < marks || body.drop (body.length - marks) ≠ quote then
    .error (r.faultAt r.chars.length 0 ("invalid " ++ name) [mark])
  else
    let body := body.take (body.length - marks)
    if marks = 1 then .ok (marks, body)
    else match body with
      | '\n' :: rest => .ok (marks + 1, rest)
      | '\r' :: '\n' :: rest => .ok (marks + 2, rest)
      | _ => .ok (marks, body)

/-- The text of a quotation. -/
def quoted (r : Raw) : Except Fault String :=
  match r.quoting with
  | .bare => .ok (String.ofList r.chars)
  | .basic => do
    let (index, body) ← r.inner 1 "basic string" "`\"`"
    return String.ofList (← r.unescape false index body)
  | .longBasic => do
    let (index, body) ← r.inner 3 "multi-line basic string" "`\"`"
    return String.ofList (← r.unescape true index body)
  | .literal => do
    let (index, body) ← r.inner 1 "literal string" "`'`"
    return String.ofList (← r.verbatim false index body)
  | .longLiteral => do
    let (index, body) ← r.inner 3 "multi-line literal string" "`'`"
    return String.ofList (← r.verbatim true index body)

end SdkGen.Toml.Raw
