import SdkGen.Toml.Scalar
import SdkGen.Text.Keyed

/-!
# Values of a TOML document

A table lists its entries in the order of their keys. It remembers how it came about, since that
decides what may still be added to it.

* `Value`: scalars, arrays and tables with their places.
* `Value.ofSyntax`: the value that is written, or the first fault.
-/

namespace SdkGen.Toml

/-- How a table came about. -/
inductive Origin
  /-- By its own header, or as the document itself. -/
  | header
  /-- As a part of the path of a header. -/
  | implied
  /-- As a part of a dotted key. -/
  | dotted
  /-- As a value in braces. -/
  | inline
  deriving DecidableEq, Repr, Inhabited

/-- A value and its place. -/
inductive Value
  | scalar (value : Scalar) (span : Span)
  | array (items : List Value) (ofTables : Bool) (span : Span)
  | table (entries : List (String × Span × Value)) (origin : Origin) (span : Span)
  deriving Repr, Inhabited

/-- The entries of a table in the order of their keys, each with the place of its key. -/
abbrev Entries := List (String × Span × Value)

/-- A key and its place. -/
structure Key where
  text : String
  span : Span
  deriving DecidableEq, Repr, Inhabited

namespace Value

/-- Where a value stands. -/
def span : Value → Span
  | scalar _ s => s
  | array _ _ s => s
  | table _ _ s => s

/-- The name of the kind of value. -/
def kindName : Value → String
  | scalar (.string _) _ => "string"
  | scalar (.integer _) _ => "integer"
  | scalar (.float _) _ => "float"
  | scalar (.boolean _) _ => "boolean"
  | scalar (.dateTime _) _ => "datetime"
  | array _ _ _ => "array"
  | table _ _ _ => "table"

end Value

/-- A key that is there already, or that leads where nothing may be added. -/
def duplicateKey (k : Key) : Fault := ⟨k.span, "duplicate key"⟩

/-- A key that leads through a value that is no table. -/
def notExtensible (k : Key) (kind : String) : Fault :=
  ⟨k.span, s!"cannot extend value of type {kind} with a dotted key"⟩

namespace Entries

/-- The fault of a key that leads into a table, if it may not. `isDotted` tells a dotted key from
the path of a header, `inBraces` an entry of an inline table from one of the document. -/
def entryFault (isDotted inBraces : Bool) (k : Key) (here : Origin) : Option Fault :=
  if here = .inline && !inBraces then some (notExtensible k "inline table")
  else if isDotted && (here = .header || here = .inline) then some (duplicateKey k)
  else none

/-- Changes the table at a path. Tables that are missing on the way are made. -/
def modifyAt (isDotted inBraces : Bool) (change : Origin → Entries → Except Fault Entries) :
    List Key → Origin → Entries → Except Fault Entries
  | [], here, es => change here es
  | k :: path, _, es =>
    match Keyed.lookup k.text es with
    | none => do
      let origin := if isDotted then .dotted else .implied
      let inner ← modifyAt isDotted inBraces change path origin []
      return Keyed.insert k.text (k.span, .table inner origin k.span) es
    | some (place, .table inner here span) =>
      match entryFault isDotted inBraces k here with
      | some f => .error f
      | none => do
        let inner ← modifyAt isDotted inBraces change path here inner
        return Keyed.insert k.text (place, .table inner here span) es
    | some (place, .array items true span) =>
      match items.reverse with
      | .table inner here itemSpan :: before => do
        let inner ← modifyAt isDotted inBraces change path here inner
        let items := (Value.table inner here itemSpan :: before).reverse
        return Keyed.insert k.text (place, .array items true span) es
      | _ => .error (notExtensible k "array")
    | some (_, v) => .error (notExtensible k v.kindName)

/-- Adds a value under a dotted key, of which the last part is given by itself. -/
def add (inBraces : Bool) (path : List Key) (k : Key) (v : Value) (es : Entries) :
    Except Fault Entries :=
  modifyAt true inBraces (fun here inner =>
    if here = .dotted && path.isEmpty || here ≠ .dotted && !path.isEmpty then
      .error (duplicateKey k)
    else match Keyed.lookup k.text inner with
      | some _ => .error (duplicateKey k)
      | none => .ok (Keyed.insert k.text (k.span, v) inner)) path .header es

end Entries

/-- What the parts of a key say; the last one is given by itself. -/
def Key.ofParts : List Raw → Except Fault (List Key × Key)
  | [] => .error ⟨⟨0, 0⟩, "unquoted keys cannot be empty"⟩
  | [r] => do return ([], ⟨← r.toKey, r.span⟩)
  | r :: s :: rest => do
    let k : Key := ⟨← r.toKey, r.span⟩
    let (path, last) ← Key.ofParts (s :: rest)
    return (k :: path, last)

namespace Value

mutual

/-- The value that is written. -/
def ofSyntax : ValueSyntax → Except Fault Value
  | .scalar raw => do return .scalar (← raw.toScalar) raw.span
  | .array items span => do return .array (← ofItems items) false span
  | .table entries span => do return .table (← ofEntries [] entries) .inline span

/-- The values of an array. -/
def ofItems : List ValueSyntax → Except Fault (List Value)
  | [] => .ok []
  | v :: rest => do
    let w ← ofSyntax v
    return w :: (← ofItems rest)

/-- The entries of an inline table, added to those before them. -/
def ofEntries (es : Entries) : List (List Raw × ValueSyntax) → Except Fault Entries
  | [] => .ok es
  | (key, v) :: rest => do
    let (path, last) ← Key.ofParts key
    let w ← ofSyntax v
    ofEntries (← es.add true path last w) rest

end

end Value

end SdkGen.Toml
