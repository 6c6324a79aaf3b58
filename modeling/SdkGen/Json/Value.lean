import SdkGen.Text.Keyed

/-!
# JSON values

`Value` keeps the members of an object in the order they were given. `Value.sorted` puts them in
the byte order of their keys, at every depth.
-/

namespace SdkGen.Json

/-- A number: an integer, or a binary floating-point number given by its bits. -/
inductive Number
  | integer (n : Int)
  | float (bits : UInt64)
  deriving DecidableEq, Repr

/-- A JSON value. -/
inductive Value
  | null
  | bool (b : Bool)
  | number (n : Number)
  | string (s : String)
  | array (items : List Value)
  | object (members : List (String × Value))
  deriving Repr, Inhabited, BEq

namespace Value

/-- The value of a natural number. -/
def nat (n : Nat) : Value := .number (.integer n)

/-- Text, or null. -/
def ofOption : Option String → Value
  | some s => .string s
  | none => .null

/-- An array of texts. -/
def strings (ss : List String) : Value := .array (ss.map .string)

mutual

/-- The same value with the members of every object sorted by key. -/
def sorted : Value → Value
  | .array items => .array (sortedItems items)
  | .object members => .object (sortedMembers members)
  | .null => .null
  | .bool b => .bool b
  | .number n => .number n
  | .string s => .string s

/-- Sorts within the items of an array. -/
def sortedItems : List Value → List Value
  | [] => []
  | v :: vs => v.sorted :: sortedItems vs

/-- Sorts the members of an object, and within them. -/
def sortedMembers : List (String × Value) → List (String × Value)
  | [] => []
  | (k, v) :: ms =>
    let rest := sortedMembers ms
    if rest.any (fun m => m.1 = k) then rest else Keyed.insert k v.sorted rest

end

/-- A member of an object. -/
def get? (key : String) : Value → Option Value
  | .object members => (members.find? fun m => m.1 = key).map Prod.snd
  | _ => none

end Value

end SdkGen.Json
