import SdkGen.Toml.Document
import SdkGen.Text.Escaped
import SdkGen.Decimal.Shortest

/-!
# Reading values of a fixed type

Each reader takes a value of one type and refuses every other with a fault at its place. A point
in time counts as a table of one entry.

* `Value.toText`, `Value.toBoolean`, `Value.toItems`, `Value.toEntries`.
* `Value.fits`: whether a value holds no number that is too large.
-/

namespace SdkGen.Toml

namespace Value

/-- A double in full, with a point. -/
def doubleText (bits : UInt64) : String :=
  let sign := if Double.isNegative bits then "-" else ""
  match Double.ofBits bits with
  | none => if bits.toNat % Nat.pow 2 52 = 0 then sign ++ "inf" else "NaN"
  | some d =>
    if d.mantissa = 0 then sign ++ "0.0"
    else
      let s := Decimal.shortest d
      let ds := (toString s.digits).toList
      match s.exponent with
      | .ofNat k => sign ++ toString s.digits ++ String.ofList (List.replicate k '0') ++ ".0"
      | .negSucc k =>
        let padded := List.replicate (k + 2 - ds.length) '0' ++ ds
        let whole := padded.take (padded.length - (k + 1))
        sign ++ String.ofList whole ++ "." ++ String.ofList (padded.drop whole.length)

/-- Whether an integer lies between `- 2 ^ k` and `2 ^ l`, the latter not included. -/
def isBetween (k l : Nat) (n : Int) : Bool := -(Nat.pow 2 k : Int) ≤ n && n < (Nat.pow 2 l : Int)

/-- An integer, with the width that it needs beyond 64 bits. -/
def integerText (n : Int) : String :=
  if isBetween 63 64 n then s!"integer `{n}`"
  else if n < (Nat.pow 2 127 : Int) then s!"integer `{n}` as i128"
  else s!"integer `{n}` as u128"

/-- The remark about a number that is too large. -/
def overflow (kind : String) : String := kind ++ " number overflowed"

/-- The fault of a value that is not of the expected type. -/
def mismatch (v : Value) (expected : String) : Fault :=
  let invalid := fun (shown : String) =>
    Fault.mk v.span s!"invalid type: {shown}, expected {expected}"
  match v with
  | scalar (.string s) _ => invalid s!"string {Escaped.quoted s}"
  | scalar (.integer (some n)) span =>
    if isBetween 127 128 n then invalid (integerText n) else ⟨span, overflow "integer"⟩
  | scalar (.integer none) span => ⟨span, overflow "integer"⟩
  | scalar (.float none) span => ⟨span, overflow "floating-point"⟩
  | scalar (.float (some bits)) _ => invalid s!"floating point `{doubleText bits}`"
  | scalar (.boolean b) _ => invalid s!"boolean `{b}`"
  | scalar (.dateTime _) _ => invalid "map"
  | array _ _ _ => invalid "sequence"
  | table _ _ _ => invalid "map"

/-- A text; the expectation is worded as given. -/
def toText (expected : String) : Value → Except Fault String
  | scalar (.string s) _ => .ok s
  | v => .error (v.mismatch expected)

/-- A truth value. -/
def toBoolean : Value → Except Fault Bool
  | scalar (.boolean b) _ => .ok b
  | v => .error (v.mismatch "a boolean")

/-- The items of an array. -/
def toItems : Value → Except Fault (List Value)
  | array items _ _ => .ok items
  | v => .error (v.mismatch "a sequence")

/-- The key under which the text of a point in time stands. -/
def dateTimeKey : String := "$__toml_private_datetime"

/-- The entries of a table. -/
def toEntries (expected : String) : Value → Except Fault Entries
  | table entries _ _ => .ok entries
  | scalar (.dateTime s) span => .ok [(dateTimeKey, span, scalar (.string s.text) span)]
  | v => .error (v.mismatch expected)

mutual

/-- Whether every number of a value fits: an integer in 64 bits with a sign, any other in a
double. -/
def fits : Value → Bool
  | scalar (.integer (some n)) _ => isBetween 63 63 n
  | scalar (.integer none) _ => false
  | scalar (.float bits) _ => bits.isSome
  | scalar _ _ => true
  | array items _ _ => itemsFit items
  | table entries _ _ => entriesFit entries

/-- Whether every number of the items of an array fits. -/
def itemsFit : List Value → Bool
  | [] => true
  | v :: vs => v.fits && itemsFit vs

/-- Whether every number of the entries of a table fits. -/
def entriesFit : List (String × Span × Value) → Bool
  | [] => true
  | (_, _, v) :: es => v.fits && entriesFit es

end

end Value

/-- The fault of a key that is not one of those known. -/
def unknownField (key : String) (span : Span) (known : List String) : Fault :=
  ⟨span, s!"unknown field `{key}`, expected one of " ++
    ", ".intercalate (known.map fun k => s!"`{k}`")⟩

end SdkGen.Toml
