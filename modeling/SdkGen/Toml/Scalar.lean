import SdkGen.Toml.DateTime
import SdkGen.Toml.Number

/-!
# Keys and scalars of TOML

What a bare scalar is shows in its first characters; the rest then has to fit.

* `Scalar`: a text, a number, a truth value or a point in time.
* `Raw.toKey`, `Raw.toScalar`: what a key or scalar says, or what is wrong with it.
-/

namespace SdkGen.Toml

/-- A value that has no parts. -/
inductive Scalar
  | string (text : String)
  /-- An integer; none where a mark of its base stands without digits. -/
  | integer (value : Option Int)
  /-- The bits of a double; none where the number is too large for one. -/
  | float (bits : Option UInt64)
  | boolean (value : Bool)
  | dateTime (value : DateTime)
  deriving DecidableEq, Repr, Inhabited

namespace Raw

/-! ## Keys -/

/-- Characters of a key without quotation marks. -/
def isKeyChar (c : Char) : Bool := c.isAlphanum || c = '-' || c = '_'

/-- What a bare key is made of. -/
def keyChars : List String := ["letters", "numbers", "`-`", "`_`"]

/-- What a key says. -/
def toKey (r : Raw) : Except Fault String :=
  match r.quoting with
  | .bare =>
    if r.chars.isEmpty then .error (r.faultOf "unquoted keys cannot be empty" keyChars)
    else match r.chars.findIdx? (!isKeyChar ·) with
      | some i => .error (r.faultAt i 1 "invalid unquoted key" keyChars)
      | none => .ok (String.ofList r.chars)
  | .longBasic => .error (r.faultOf "keys cannot be multi-line basic strings"
      ["basic string", "literal string"])
  | .longLiteral => .error (r.faultOf "keys cannot be multi-line literal strings"
      ["basic string", "literal string"])
  | .basic => r.quoted
  | .literal => r.quoted

/-! ## Bare scalars -/

/-- The fault of a bare scalar that is nothing known. -/
def unquoted (r : Raw) : Fault := r.faultOf "string values must be quoted" ["literal string"]

/-- Infinity. -/
def infinity (negative : Bool) : Scalar :=
  .float (some (if negative then 0xFFF0000000000000 else 0x7FF0000000000000))

/-- The value that is no number. -/
def notANumber (negative : Bool) : Scalar :=
  .float (some (if negative then 0xFFF8000000000000 else 0x7FF8000000000000))

/-- A word that is spelt in one way only. -/
def word (r : Raw) (spelling name : String) (value : Scalar) : Except Fault Scalar :=
  if r.chars = spelling.toList then .ok value
  else if r.chars.contains ' ' then .error r.unquoted
  else .error (r.faultOf ("invalid " ++ name) ["`" ++ spelling ++ "`"])

/-- A word after a sign, from an index on. -/
def signedWord (r : Raw) (index : Nat) (spelling : String) (value : Scalar) :
    Except Fault Scalar :=
  let cs := r.chars.drop index
  if cs = spelling.toList then .ok value
  else .error (r.faultAt index cs.length "invalid float" ["`" ++ spelling ++ "`"])

/-- Whether a text holds a mark of a number with a fraction or an exponent. -/
def hasFractionMark (cs : List Char) : Bool := cs.any fun c => c = '.' || isExponentMark c

/-- A point in time or a number of base ten; the text after the sign stands from an index on. -/
def timeOrNumber (r : Raw) (index : Nat) (cs : List Char) : Except Fault Scalar :=
  let rest := cs.dropWhile isDigitOrJoint
  match rest with
  | [] => (r.decimalInteger index cs).map .integer
  | c :: _ =>
    if c = '-' || c = ':' then
      match DateTime.read r.chars with
      | .ok d => .ok (.dateTime d)
      | .error text => .error ⟨r.span, text⟩
    else if rest.contains ' ' then .error r.unquoted
    else if hasFractionMark rest then (r.decimalFraction index cs).map .float
    else .error r.unquoted

/-- The base and its name that a letter after a zero marks. -/
def radixOf (c : Char) : Option (Nat × String) :=
  match c.toLower with
  | 'x' => some (16, "hexadecimal")
  | 'o' => some (8, "octal")
  | 'b' => some (2, "binary")
  | _ => none

/-- A scalar that starts, after its sign, with a zero. -/
def afterZero (r : Raw) (index : Nat) (cs : List Char) : Except Fault Scalar :=
  match cs with
  | _ :: c :: _ =>
    let signed : Except Fault Unit :=
      if index = 0 then .ok ()
      else .error (r.faultAt 0 1 "integers with a radix cannot be signed" [])
    match radixOf c with
    | some (base, name) => do
      signed
      if c.isUpper then
        throw (r.faultAt 0 2 "radix must be lowercase" [s!"`0{c.toLower}`"])
      return .integer (← r.radixInteger base name (index + 2))
    | none =>
      if c = 'd' || c = 'D' then do
        signed
        throw (r.faultAt 0 2 "redundant integer number prefix" [])
      else r.timeOrNumber index cs
  | _ => (r.decimalInteger index cs).map .integer

/-- A scalar after a sign, from an index on. -/
def afterSign (r : Raw) (negative : Bool) (index : Nat) (cs : List Char) : Except Fault Scalar :=
  match cs with
  | [] => .error r.unquoted
  | c :: _ =>
    if c = '+' || c = '-' then .error (r.faultAt index 1 "redundant numeric sign" [])
    else if c = '0' then r.afterZero index cs
    else if isDigitOrJoint c then r.timeOrNumber index cs
    else if c = '.' then (r.decimalFraction index cs).map .float
    else if c = 'i' || c = 'I' then r.signedWord index "inf" (infinity negative)
    else if c = 'n' || c = 'N' then r.signedWord index "nan" (notANumber negative)
    else .error r.unquoted

/-- A value without quotation marks. -/
def bareValue (r : Raw) : Except Fault Scalar :=
  match r.chars with
  | [] => .error r.unquoted
  | c :: cs =>
    if c = '+' || c = '-' then r.afterSign (c = '-') 1 cs
    else if c = '0' then r.afterZero 0 r.chars
    else if isDigitOrJoint c then r.timeOrNumber 0 r.chars
    else if c = '.' then (r.decimalFraction 0 r.chars).map .float
    else if c = 't' || c = 'T' then r.word "true" "boolean" (.boolean true)
    else if c = 'f' || c = 'F' then r.word "false" "boolean" (.boolean false)
    else if c = 'i' || c = 'I' then r.word "inf" "float" (infinity false)
    else if c = 'n' || c = 'N' then r.word "nan" "float" (notANumber false)
    else .error r.unquoted

/-- What a scalar says. -/
def toScalar (r : Raw) : Except Fault Scalar :=
  match r.quoting with
  | .bare => r.bareValue
  | _ => r.quoted.map .string

end Raw

end SdkGen.Toml
