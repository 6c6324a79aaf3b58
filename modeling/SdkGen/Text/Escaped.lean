import SdkGen.Text.Escaped.Table

/-!
# Texts with their escapes shown

`Escaped.quoted` puts a text in double quotes and writes what cannot be seen by its code.
-/

namespace SdkGen.Escaped

/-- Whether a character does not show by itself. -/
def isHidden (c : Char) : Bool :=
  if c.toNat < 128 then c.toNat < 32 || c.toNat = 127 else hiddenRanges.holds c.toNat

/-- A character with its escape. -/
def char (c : Char) : String :=
  match c with
  | '\x00' => "\\0"
  | '\t' => "\\t"
  | '\n' => "\\n"
  | '\r' => "\\r"
  | '"' => "\\\""
  | '\\' => "\\\\"
  | _ =>
    if isHidden c then "\\u\x7b" ++ String.ofList (Nat.toDigits 16 c.toNat) ++ "\x7d"
    else c.toString

/-- A text in double quotes. -/
def quoted (s : String) : String := "\"" ++ String.join (s.toList.map char) ++ "\""

end SdkGen.Escaped
