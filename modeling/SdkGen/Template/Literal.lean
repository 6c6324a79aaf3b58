import SdkGen.Decimal.Nearest
import SdkGen.Template.Syntax

/-!
# Literals in tags

A literal has the form of a JSON value, and may also be a text in single quotes. A form that is no
value, such as a number with zeros before it, is read as a literal all the same; its value is then
missing.

* `Reader`: what reads a part of a text.
* `readLiteral`: a literal.
-/

namespace SdkGen.Template

open Json (Value Number)

/-- Reads a text: what was read, and the rest. -/
abbrev Reader (α : Type) := List Char → Option (α × List Char)

/-- Blanks between the parts of a tag. -/
def isTagBlank (c : Char) : Bool := c = ' ' || c = '\t' || c = '\n' || c = '\r'

/-- Passes blanks. -/
def skip (cs : List Char) : List Char := cs.dropWhile isTagBlank

/-- Reads given characters. -/
def literally : List Char → List Char → Option (List Char)
  | [], cs => some cs
  | _ :: _, [] => none
  | p :: ps, c :: cs => if p = c then literally ps cs else none

/-- Passes a mark if it is there. -/
def flag (mark : Char) (cs : List Char) : Bool × List Char :=
  match cs with
  | c :: r => if c = mark then (true, r) else (false, cs)
  | [] => (false, cs)

/-- A character of a name. -/
def isSymbol (c : Char) : Bool :=
  c.isAlphanum || c = '_' || c = '$' || c = '-' || c.toNat ≥ 128

/-- Whether no character of a name follows. -/
def endsName (cs : List Char) : Bool := !cs.head?.any isSymbol

/-- Reads a given word as a value. -/
def readWord (word : String) (v : Value) : Reader (Option Value) := fun cs =>
  match literally word.toList cs with
  | some rest => if endsName rest then some (some v, rest) else none
  | none => none

/-! ## Numbers -/

/-- The value of decimal digits. -/
def digitsValue (cs : List Char) : Nat :=
  cs.foldl (fun n c => 10 * n + (c.toNat - '0'.toNat)) 0

/-- The double of a decimal, if it is not too large. -/
def doubleOf (negative : Bool) (digits : Nat) (exponent : Int) : Option Value :=
  (Double.nearest negative digits exponent).map fun bits => .number (.float bits)

/-- The value of an integer: it stays one where it fits in 64 bits. -/
def integerOf (negative : Bool) (digits : Nat) : Option Value :=
  if negative then
    if digits = 0 || Nat.pow 2 63 < digits then doubleOf true digits 0
    else some (.number (.integer (- Int.ofNat digits)))
  else if digits < Nat.pow 2 64 then some (.number (.integer digits))
  else doubleOf false digits 0

/-- Reads the exponent of a number. -/
def readExponent (cs : List Char) : Option (Int × List Char) :=
  match cs with
  | 'E' :: r =>
    let (negative, r) := flag '-' r
    let ds := r.takeWhile Char.isDigit
    if ds.isEmpty then none
    else
      let n := Int.ofNat (digitsValue ds)
      some (if negative then -n else n, r.drop ds.length)
  | _ => none

/-- Reads a number. -/
def readNumber : Reader (Option Value) := fun cs =>
  let (negative, afterSign) := flag '-' cs
  let whole := afterSign.takeWhile Char.isDigit
  if whole.isEmpty then none
  else
    let (hasPoint, afterPoint) := flag '.' (afterSign.drop whole.length)
    let fraction := afterPoint.takeWhile Char.isDigit
    let afterFraction := afterPoint.drop fraction.length
    let fraction := if hasPoint then fraction else []
    let (exponent, rest) := match readExponent afterFraction with
      | some (e, rest) => (some e, rest)
      | none => (none, afterFraction)
    let value :=
      if 1 < whole.length && whole.head? = some '0' || hasPoint && fraction.isEmpty then none
      else if hasPoint || exponent.isSome then
        doubleOf negative (digitsValue (whole ++ fraction))
          (exponent.getD 0 - Int.ofNat fraction.length)
      else integerOf negative (digitsValue whole)
    if endsName rest then some (value, rest) else none

/-! ## Texts -/

/-- The value of a digit of base sixteen. -/
def hexValue (c : Char) : Option Nat :=
  if c.isDigit then some (c.toNat - 48)
  else if 'a' ≤ c && c ≤ 'f' then some (c.toNat - 87)
  else if 'A' ≤ c && c ≤ 'F' then some (c.toNat - 55)
  else none

/-- Reads four digits of base sixteen. -/
def readCode : Reader Nat := fun cs =>
  match cs with
  | a :: b :: c :: d :: rest => do
    let a ← hexValue a
    let b ← hexValue b
    let c ← hexValue c
    let d ← hexValue d
    return (4096 * a + 256 * b + 16 * c + d, rest)
  | _ => none

/-- The character of a short escape in a text with a given quote. -/
def shortEscape (quote c : Char) : Option Char :=
  if c = quote then some quote
  else match c with
    | '\\' => some '\\'
    | '/' => some '/'
    | 'b' => some '\x08'
    | 'f' => some '\x0c'
    | 'n' => some '\n'
    | 'r' => some '\r'
    | 't' => some '\t'
    | _ => none

/-- Reads a text up to its quote as code units of 16 bits and characters. -/
def readUnits (quote : Char) : Nat → Reader (List (Nat ⊕ Char))
  | 0, _ => none
  | _, [] => none
  | n + 1, '\\' :: cs =>
    match cs with
    | [] => none
    | c :: rest =>
      match shortEscape quote c with
      | some d => (readUnits quote n rest).map fun (us, rest) => (.inr d :: us, rest)
      | none =>
        if c = 'u' then do
          let (code, rest) ← readCode rest
          let (us, rest) ← readUnits quote n rest
          return (.inl code :: us, rest)
        else none
  | n + 1, c :: cs =>
    if c = quote then some ([], cs)
    else (readUnits quote n cs).map fun (us, rest) => (.inr c :: us, rest)

/-- The text of code units and characters; none where a unit is half of a character by itself. -/
def textOf : List (Nat ⊕ Char) → Option (List Char)
  | [] => some []
  | .inr c :: us => (textOf us).map (c :: ·)
  | [.inl n] => if n < 0xD800 || 0xDFFF < n then some [Char.ofNat n] else none
  | .inl n :: .inl m :: us =>
    if n < 0xD800 || 0xDFFF < n then (textOf (.inl m :: us)).map (Char.ofNat n :: ·)
    else if n < 0xDC00 && 0xDC00 ≤ m && m ≤ 0xDFFF then
      (textOf us).map (Char.ofNat (0x10000 + 0x400 * (n - 0xD800) + (m - 0xDC00)) :: ·)
    else none
  | .inl n :: .inr c :: us =>
    if n < 0xD800 || 0xDFFF < n then (textOf us).map fun s => Char.ofNat n :: c :: s else none

/-- Reads a text in quotes. -/
def readText (quote : Char) : Reader (Option String) := fun cs =>
  match cs with
  | c :: r =>
    if c = quote then do
      let (units, rest) ← readUnits quote (r.length + 1) r
      let written := r.take (r.length - rest.length)
      if written.all fun d => 32 ≤ d.toNat then
        return ((textOf units).map String.ofList, rest)
      else return (none, rest)
    else none
  | [] => none

/-- Reads a text in double quotes, or one in single quotes, which is no value inside others. -/
def readQuoted (isInside : Bool) : Reader (Option String) := fun cs =>
  match readText '"' cs with
  | some r => some r
  | none =>
    match readText '\'' cs with
    | some (s, rest) => some (if isInside then none else s, rest)
    | none => none

/-! ## Arrays and objects -/

/-- One more item before those that are known. -/
def withItem (v : Option Value) (vs : Option (List Value)) : Option (List Value) := do
  return (← v) :: (← vs)

mutual

/-- Reads a literal. -/
def readLiteral (isInside : Bool) : Nat → Reader (Option Value)
  | 0, _ => none
  | n + 1, cs =>
    match readQuoted isInside cs with
    | some (s, rest) => some (s.map .string, rest)
    | none =>
      readArray n cs <|> readObject n cs <|> readNumber cs <|> readWord "null" .null cs <|>
        readWord "true" (.bool true) cs <|> readWord "false" (.bool false) cs

/-- Reads an array. -/
def readArray : Nat → Reader (Option Value)
  | 0, _ => none
  | n + 1, cs =>
    match cs with
    | '[' :: r =>
      match readLiteral true n (skip r) with
      | some (v, rest) => do
        let (vs, rest) ← readItems n (skip rest)
        return ((withItem v vs).map .array, rest)
      | none => do
        let (vs, rest) ← readItems n (skip r)
        return (if vs.any List.isEmpty then some (.array []) else none, rest)
    | _ => none

/-- Reads the further items of an array and its end. -/
def readItems : Nat → Reader (Option (List Value))
  | 0, _ => none
  | n + 1, cs =>
    match cs with
    | ']' :: rest => some (some [], rest)
    | ',' :: r => do
      let (v, rest) ← readLiteral true n (skip r)
      let (vs, rest) ← readItems n (skip rest)
      return (withItem v vs, rest)
    | _ => none

/-- Reads an object. -/
def readObject : Nat → Reader (Option Value)
  | 0, _ => none
  | n + 1, cs =>
    match cs with
    | '{' :: r =>
      match readMember n (skip r) with
      | some (m, rest) => do
        let (ms, rest) ← readMembers n (skip rest)
        let members := do return (← m) :: (← ms)
        return (members.map fun ms => .object (Keyed.ofList ms), rest)
      | none => do
        let (ms, rest) ← readMembers n (skip r)
        return (if ms.any List.isEmpty then some (.object []) else none, rest)
    | _ => none

/-- Reads a member of an object. -/
def readMember : Nat → Reader (Option (String × Value))
  | 0, _ => none
  | n + 1, cs => do
    let (key, rest) ← readQuoted true cs
    match skip rest with
    | ':' :: r =>
      let (v, rest) ← readLiteral true n (skip r)
      return (do return (← key, ← v), rest)
    | _ => none

/-- Reads the further members of an object and its end. -/
def readMembers : Nat → Reader (Option (List (String × Value)))
  | 0, _ => none
  | n + 1, cs =>
    match cs with
    | '}' :: rest => some (some [], rest)
    | ',' :: r => do
      let (m, rest) ← readMember n (skip r)
      let (ms, rest) ← readMembers n (skip rest)
      return (do return (← m) :: (← ms), rest)
    | _ => none

end

end SdkGen.Template
