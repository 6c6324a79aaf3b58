import SdkGen.Json.Value
import SdkGen.Decimal.Shortest

/-!
# JSON text

* `Number.text`: integers in full; other numbers with the fewest digits that read back,
  positional from `1e-5` up to `1e16` and with an exponent beyond.
* `quoted`: a text in quotes.
* `Value.compact`, `Value.indented`: a value on one line, and with two blanks per level.
-/

namespace SdkGen.Json

/-- `n` zeros. -/
def zeros (n : Nat) : String := String.ofList (List.replicate n '0')

namespace Number

/-- A positive decimal: positional where its first digit is worth at least `1e-5` and less than
`1e16`, always with a point. -/
def decimalText (d : Decimal) : String :=
  let ds := (toString d.digits).toList
  let lead := Int.ofNat ds.length - 1 + d.exponent
  if -5 ≤ lead && lead ≤ 15 then
    match d.exponent with
    | .ofNat k => s!"{d.digits}{zeros k}.0"
    | .negSucc k =>
      let places := k + 1
      if lead < 0 then s!"0.{zeros (places - ds.length)}{d.digits}"
      else
        let whole := String.ofList (ds.take (ds.length - places))
        let fraction := String.ofList (ds.drop (ds.length - places))
        s!"{whole}.{fraction}"
  else
    let first := String.ofList (ds.take 1)
    let more := String.ofList (ds.drop 1)
    let point := if more.isEmpty then "" else "."
    let sign := if lead < 0 then "-" else "+"
    s!"{first}{point}{more}e{sign}{lead.natAbs}"

/-- The text of a number; infinities and NaN have none and are written as null. -/
def text : Number → String
  | .integer n => toString n
  | .float bits =>
    match Double.ofBits bits with
    | none => "null"
    | some d =>
      let sign := if Double.isNegative bits then "-" else ""
      if d.mantissa = 0 then sign ++ "0.0"
      else sign ++ decimalText (Decimal.shortest d)

end Number

/-- Four hexadecimal digits. -/
def hex4 (n : Nat) : String :=
  let digit := fun k => Nat.digitChar (n / Nat.pow 16 k % 16)
  String.ofList [digit 3, digit 2, digit 1, digit 0]

/-- A character inside quotes: quote, backslash and control characters are escaped. -/
def quotedChar (c : Char) : String :=
  if c = '"' then "\\\""
  else if c = '\\' then "\\\\"
  else if c = '\n' then "\\n"
  else if c = '\r' then "\\r"
  else if c = '\t' then "\\t"
  else if c = '\x08' then "\\b"
  else if c = '\x0c' then "\\f"
  else if c.toNat < 32 then "\\u" ++ hex4 c.toNat
  else c.toString

/-- A text in quotes. -/
def quoted (s : String) : String :=
  "\"" ++ String.join (s.toList.map quotedChar) ++ "\""

/-- A line end and two blanks per level. -/
def newLine (level : Nat) : String :=
  "\n" ++ String.ofList (List.replicate (2 * level) ' ')

namespace Value

mutual

/-- The value on one line. -/
def compact : Value → String
  | .null => "null"
  | .bool b => if b then "true" else "false"
  | .number n => n.text
  | .string s => quoted s
  | .array items => "[" ++ ",".intercalate (compactItems items) ++ "]"
  | .object members => "\x7b" ++ ",".intercalate (compactMembers members) ++ "\x7d"

/-- The items of an array, each on one line. -/
def compactItems : List Value → List String
  | [] => []
  | v :: vs => v.compact :: compactItems vs

/-- The members of an object, each on one line. -/
def compactMembers : List (String × Value) → List String
  | [] => []
  | (k, v) :: ms => (quoted k ++ ":" ++ v.compact) :: compactMembers ms

end

mutual

/-- The value over several lines, two blanks per level; empty arrays and objects stay closed. -/
def indented (level : Nat) : Value → String
  | .null => "null"
  | .bool b => if b then "true" else "false"
  | .number n => n.text
  | .string s => quoted s
  | .array [] => "[]"
  | .array (v :: vs) =>
    "[" ++ newLine (level + 1) ++ ("," ++ newLine (level + 1)).intercalate
      (v.indented (level + 1) :: indentedItems (level + 1) vs) ++ newLine level ++ "]"
  | .object [] => "\x7b\x7d"
  | .object ((k, v) :: ms) =>
    "\x7b" ++ newLine (level + 1) ++ ("," ++ newLine (level + 1)).intercalate
      ((quoted k ++ ": " ++ v.indented (level + 1)) :: indentedMembers (level + 1) ms) ++
      newLine level ++ "\x7d"

/-- The items of an array. -/
def indentedItems (level : Nat) : List Value → List String
  | [] => []
  | v :: vs => v.indented level :: indentedItems level vs

/-- The members of an object. -/
def indentedMembers (level : Nat) : List (String × Value) → List String
  | [] => []
  | (k, v) :: ms => (quoted k ++ ": " ++ v.indented level) :: indentedMembers level ms

end

/-- The value over several lines. -/
def pretty (v : Value) : String := v.indented 0

end Value

end SdkGen.Json
