import SdkGen.Template.Scope
import SdkGen.Json.Printer
import SdkGen.Decimal.Nearest
import SdkGen.Decimal.Shortest

/-!
# Helpers

A helper is told its parameters and says what its tag does.

* `isTruthy`, `valueText`, `compareValues`: what helpers ask of values.
* `Plan`: what a tag does.
* `plan`: the plan of a helper.
-/

namespace SdkGen.Template

open Json (Value Number)

/-! ## Values -/

/-- Whether a value holds as a condition. -/
def isTruthy (includeZero : Bool) : Value → Bool
  | .null => false
  | .bool b => b
  | .number (.integer n) => includeZero || n ≠ 0
  | .number (.float bits) => includeZero || bits.toNat / Nat.pow 2 52 % Nat.pow 2 11 ≠ 0
  | .string s => s ≠ ""
  | .array items => !items.isEmpty
  | .object members => !members.isEmpty

mutual

/-- The text of a value in the output. -/
def valueText : Value → String
  | .null => ""
  | .bool b => if b then "true" else "false"
  | .number n => n.text
  | .string s => s
  | .array items => "[" ++ ", ".intercalate (valueTexts items) ++ "]"
  | .object _ => "[object]"

/-- The texts of some values. -/
def valueTexts : List Value → List String
  | [] => []
  | v :: vs => valueText v :: valueTexts vs

end

/-- How many items or bytes a value has. -/
def valueLength : Value → Nat
  | .string s => s.utf8ByteSize
  | .array items => items.length
  | .object members => members.length
  | _ => 0

/-! ## Comparisons -/

/-- A number as a fraction: a numerator over a power of two. -/
def fraction : Number → Option (Int × Nat)
  | .integer n => some (n, 0)
  | .float bits =>
    (Double.ofBits bits).map fun d =>
      let m := if Double.isNegative bits then - Int.ofNat d.mantissa else Int.ofNat d.mantissa
      match d.exponent with
      | .ofNat k => (m * (Nat.pow 2 k : Int), 0)
      | .negSucc k => (m, k + 1)

/-- The order of two numbers, compared without rounding. -/
def compareNumbers (a b : Number) : Option Ordering := do
  let (m, j) ← fraction a
  let (n, k) ← fraction b
  return compare (m * (Nat.pow 2 k : Int)) (n * (Nat.pow 2 j : Int))

/-- The digits before and after the point of a decimal without a sign. -/
def decimalDigits (cs : List Char) : Option (List Char × List Char) :=
  let whole := cs.takeWhile Char.isDigit
  match cs.drop whole.length with
  | [] => if whole.isEmpty then none else some (whole, [])
  | '.' :: fraction =>
    if fraction.all Char.isDigit && !(whole.isEmpty && fraction.isEmpty) then
      some (whole, fraction)
    else none
  | _ => none

/-- The integer that digits with or without a sign write. -/
def signedInteger (cs : List Char) : Option Int :=
  let (negative, ds) := match cs with
    | '-' :: ds => (true, ds)
    | '+' :: ds => (false, ds)
    | ds => (false, ds)
  if ds.isEmpty || !ds.all Char.isDigit then none
  else
    let n := Int.ofNat (ds.foldl (fun n c => 10 * n + (c.toNat - '0'.toNat)) 0)
    some (if negative then -n else n)

/-- A number that may be infinite. -/
inductive Extended
  | finite (n : Number)
  | infinite (negative : Bool)

/-- A decimal rounded to a double. -/
def rounded (negative : Bool) (digits : Nat) (exponent : Int) : Extended :=
  match Double.nearest negative digits exponent with
  | some bits => .finite (.float bits)
  | none => .infinite negative

/-- The number that a whole text writes. -/
def numberOf (s : String) : Option Extended :=
  let (negative, cs) := match s.toList with
    | '-' :: cs => (true, cs)
    | '+' :: cs => (false, cs)
    | cs => (false, cs)
  let word := String.ofList (cs.map Char.toLower)
  if word = "inf" || word = "infinity" then some (.infinite negative)
  else do
    let mantissa := cs.takeWhile fun c => c ≠ 'e' && c ≠ 'E'
    let (whole, places) ← decimalDigits mantissa
    let exponent ← match cs.drop mantissa.length with
      | [] => some 0
      | _ :: ds => signedInteger ds
    let digits := (whole ++ places).foldl (fun n c => 10 * n + (c.toNat - '0'.toNat)) 0
    return rounded negative digits (exponent - Int.ofNat places.length)

/-- The order of a number, rounded to a double, and the number that a text writes. -/
def compareToText (a : Number) (s : String) : Option Ordering := do
  let x := match a with
    | .integer n => rounded (n < 0) n.natAbs 0
    | .float bits => .finite (.float bits)
  match x, ← numberOf s with
  | .finite x, .finite y => compareNumbers x y
  | _, .infinite negative => some (if negative then .gt else .lt)
  | .infinite negative, _ => some (if negative then .lt else .gt)

/-- The order of two values, where they have one. -/
def compareValues : Value → Value → Option Ordering
  | .number a, .number b => compareNumbers a b
  | .string a, .string b => some (compare a b)
  | .bool a, .bool b => some (compare a.toNat b.toNat)
  | .number a, .string b => compareToText a b
  | .string a, .number b => (compareToText b a).map Ordering.swap
  | _, _ => none

/-! ## Parameters -/

/-- An evaluated parameter: the text of its path, if it is one, and its value, if it leads to one. -/
structure Evaluated where
  path : Option String
  seen : Option Seen

namespace Evaluated

/-- The value, null where there is none. -/
def get (e : Evaluated) : Value := (e.seen.map Seen.value).getD .null

/-- What was seen; a null that is no data where nothing was. -/
def base (e : Evaluated) : Seen := e.seen.getD ⟨.null, false⟩

/-- A value that is no part of the data. -/
def ofValue (v : Value) : Evaluated := ⟨none, some ⟨v, false⟩⟩

end Evaluated

/-- What a helper is told: its parameters, those with names, and the names that its block gives. -/
structure Arguments where
  params : List Evaluated
  named : List (String × Evaluated)
  names : List String

namespace Arguments

/-- A parameter that has to be given. -/
def param (a : Arguments) (helper : String) (index : Nat) : Except RenderCause Evaluated :=
  match a.params[index]? with
  | some e => .ok e
  | none => .error (.missingParam helper index)

/-- The value of a parameter that has to be given, and to lead to one. -/
def value (a : Arguments) (helper : String) (index : Nat) : Except RenderCause Value :=
  match (a.params[index]?).bind Evaluated.seen with
  | some v => .ok v.value
  | none => .error (.missingParam helper index)

end Arguments

/-! ## Plans -/

/-- What a tag does. -/
inductive Plan
  | write (v : Value)
  /-- Its contents once inside each frame. -/
  | inside (frames : List Frame)
  /-- Its contents as they are. -/
  | contents
  /-- What stands after its `else`. -/
  | otherwise
  | nothing

/-- What the tag of a helper has. -/
structure Blocks where
  hasContents : Bool
  hasOtherwise : Bool

/-- The names that a block gives its value and its key. -/
def blockNames (names : List String) (v : Seen) (key : Value) : List (String × Seen) :=
  match names with
  | [a] => [(a, v)]
  | a :: b :: _ => [(b, ⟨key, false⟩), (a, v)]
  | [] => []

/-- The items of a collection, with their keys in an object. -/
def itemsOf : Value → Option (List (Option String × Value))
  | .array items => some (items.map fun v => (none, v))
  | .object members => some (members.map fun m => (some m.1, m.2))
  | _ => none

/-- The frames of the items of a collection; `before` counts the items passed. -/
def itemFrames (isData : Bool) (names : List String) :
    Nat → List (Option String × Value) → List Frame
  | _, [] => []
  | before, (key?, v) :: more =>
    let index := Value.nat before
    let key := (key?.map Value.string).getD index
    let locals := [("first", Value.bool (before = 0)), ("last", Value.bool more.isEmpty),
      ("index", index)] ++ (key?.map fun k => ("key", Value.string k)).toList
    ⟨⟨v, isData⟩, locals, blockNames names ⟨v, isData⟩ key⟩ ::
      itemFrames isData names (before + 1) more

/-- A block for each item of a collection. -/
def planEach (a : Arguments) (b : Blocks) : Except RenderCause Plan := do
  let p ← a.param "each" 0
  if !b.hasContents then return .nothing
  match itemsOf p.get with
  | some [] => return if b.hasOtherwise then .otherwise else .nothing
  | some items => return .inside (itemFrames p.base.isData a.names 0 items)
  | none => if b.hasOtherwise then return .otherwise else .error (.missingVariable p.path)

/-- A block inside a value. -/
def planWith (a : Arguments) (b : Blocks) : Except RenderCause Plan := do
  let p ← a.param "with" 0
  if isTruthy false p.get then
    let names := if a.names.length = 1 then a.names else []
    return .inside [⟨p.base, [], blockNames names p.base .null⟩]
  else if b.hasOtherwise then return .otherwise
  else .error (.missingVariable p.path)

/-- A block under a condition. -/
def planIf (wanted : Bool) (a : Arguments) : Except RenderCause Plan := do
  let p ← a.param "if" 0
  let includeZero := match (Keyed.lookup "includeZero" a.named).map Evaluated.get with
    | some (.bool b) => b
    | _ => false
  return if isTruthy includeZero p.get = wanted then .contents else .otherwise

/-- Writes to a log, of which nothing is seen. -/
def planLog (a : Arguments) : Except RenderCause Plan :=
  let level := match (Keyed.lookup "level" a.named).map Evaluated.get with
    | some (.string s) => s
    | _ => "info"
  if ["error", "warn", "info", "debug", "trace"].contains (level.map Char.toLower) then
    .ok .nothing
  else .error (.loggingLevel level)

/-- Writes an element of a collection. -/
def planLookup (a : Arguments) : Except RenderCause Plan := do
  let collection ← a.param "lookup" 0
  let key ← a.param "lookup" 1
  let found := match collection.get, key.get with
    | .array items, .number (.integer n) => if n < 0 then none else items[n.toNat]?
    | .object members, .string key => Keyed.lookup key members
    | _, _ => none
  match found with
  | some v => return .write v
  | none => .error (.missingVariable none)

/-- Writes the length of a value. -/
def planLength (a : Arguments) : Except RenderCause Plan :=
  match (a.params.head?).bind Evaluated.seen with
  | some v => .ok (.write (.nat (valueLength v.value)))
  | none => .error (.missingNamedParam "len" "x")

/-- Writes a truth value; a block stands under it as a condition. -/
def planTruth (b : Blocks) (holds : Bool) : Plan :=
  if !b.hasContents then .write (.bool holds) else if holds then .contents else .otherwise

/-- Compares two values. -/
def planCompare (name : String) (test : Value → Value → Bool) (a : Arguments) (b : Blocks) :
    Except RenderCause Plan := do
  let x ← a.value name 0
  let y ← a.value name 1
  return planTruth b (test x y)

/-- The names of the helpers. -/
def helperNames : List String :=
  ["if", "unless", "each", "with", "raw", "log", "lookup", "len", "eq", "ne", "gt", "gte", "lt",
    "lte", "and", "or", "not"]

/-- Whether a name is a helper's. -/
def isHelper (name : String) : Bool := helperNames.contains name

/-- What the tag of a helper does. -/
def plan (name : String) (a : Arguments) (b : Blocks) : Except RenderCause Plan :=
  match name with
  | "if" => planIf true a
  | "unless" => planIf false a
  | "each" => planEach a b
  | "with" => planWith a b
  | "raw" => .ok .contents
  | "log" => planLog a
  | "lookup" => planLookup a
  | "len" => planLength a
  | "eq" => planCompare name (fun x y => x == y) a b
  | "ne" => planCompare name (fun x y => !(x == y)) a b
  | "gt" => planCompare name (fun x y => compareValues x y == some .gt) a b
  | "gte" => planCompare name (fun x y => (compareValues x y).any (· != .lt)) a b
  | "lt" => planCompare name (fun x y => compareValues x y == some .lt) a b
  | "lte" => planCompare name (fun x y => (compareValues x y).any (· != .gt)) a b
  | "and" => planCompare name (fun x y => isTruthy false x && isTruthy false y) a b
  | "or" => planCompare name (fun x y => isTruthy false x || isTruthy false y) a b
  | "not" => (a.value name 0).map fun x => planTruth b (!isTruthy false x)
  | _ => .error (.helperNotFound name)

end SdkGen.Template
