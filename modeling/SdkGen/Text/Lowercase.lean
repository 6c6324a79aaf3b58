import SdkGen.Text.Lowercase.Table

/-!
# Lowercase

The lowercase form of a character may be longer than one character: `İ` becomes `i` and a
combining dot.

* `Lowercase.ofChar`: the lowercase form of one character.
* `Lowercase.ofString`: a text in lowercase.
-/

namespace SdkGen.Lowercase

/-- The distance to the lowercase form, zero where there is none. -/
def shift (n : Nat) : Int :=
  match runs.find? fun r =>
      decide (r.first ≤ n) && decide (n ≤ r.last) && (n - r.first) % r.step == 0 with
  | some r => r.shift
  | none => 0

/-- The lowercase form of a character. -/
def ofChar (c : Char) : List Char :=
  if c.toNat < 128 then [c.toLower]
  else if c = '\u0130' then ['i', '\u0307']
  else [Char.ofNat (c.toNat + shift c.toNat).toNat]

/-- A text with every character in lowercase. -/
def ofString (s : String) : String :=
  String.ofList (s.toList.flatMap ofChar)

end SdkGen.Lowercase
