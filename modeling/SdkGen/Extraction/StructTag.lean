import SdkGen.Text.Occurrence

/-!
# Struct tags

A tag is a string literal. Its JSON entry starts after the first `json:` and runs up to the next
space.

* `StructTag.unquote`: the text of a literal.
* `StructTag.json?`: the JSON entry of a tag.
-/

namespace SdkGen.StructTag

/-- What a backslash and the next character stand for. -/
def unescaped (c : Char) : List Char :=
  if c = 'n' then ['\n']
  else if c = 't' then ['\t']
  else if c = 'r' then ['\r']
  else if c = '"' || c = '\\' || c = '\'' then [c]
  else ['\\', c]

/-- The text of an interpreted literal's body. -/
def decode : List Char → List Char
  | '\\' :: c :: r => unescaped c ++ decode r
  | c :: r => c :: decode r
  | [] => []

/-- What stands between a mark at both ends, the two marks being different characters of the
text. -/
def between (mark : Char) (cs : List Char) : Option (List Char) :=
  match Occurrence.dropPrefix [mark] cs with
  | some rest => Occurrence.dropSuffix [mark] rest
  | none => none

/-- The text of a literal; a text that is no literal stands for itself. -/
def unquote (literal : String) : String :=
  match between '\x60' literal.toList with
  | some raw => String.ofList raw
  | none =>
    match between '"' literal.toList with
    | some body => String.ofList (decode body)
    | none => literal

/-- The JSON entry of a tag. -/
structure JsonEntry where
  name : String
  omitEmpty : Bool
  deriving DecidableEq, Repr

/-- The option that makes a field optional. -/
def omitOption : List Char := [',', 'o', 'm', 'i', 't', 'e', 'm', 'p', 't', 'y']

/-- Takes quotes off both ends. -/
def withoutQuotes (cs : List Char) : List Char :=
  ((cs.dropWhile (· = '"')).reverse.dropWhile (· = '"')).reverse

/-- The entry with this value. Other options stay part of the name. -/
def JsonEntry.ofValue (value : List Char) : JsonEntry :=
  match Occurrence.splitFirst omitOption value with
  | some (before, after) => ⟨String.ofList (before ++ after), true⟩
  | none => ⟨String.ofList value, false⟩

/-- The JSON entry of a tag as written in the source. -/
def json? (literal : String) : Option JsonEntry :=
  match Occurrence.splitFirst ['j', 's', 'o', 'n', ':'] (unquote literal).toList with
  | some (_, after) => some (.ofValue (withoutQuotes (after.takeWhile (· ≠ ' '))))
  | none => none

end SdkGen.StructTag
