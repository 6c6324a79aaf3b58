import SdkGen.Model.TypeExpr
import SdkGen.Text.Keyed

/-!
# Type tables

A type table gives TypeScript types by the text of a type expression. `TypeTable.map` falls back on
that text.
-/

namespace SdkGen.TypeScript

/-- TypeScript types by the text of a type, in the order of the texts. -/
structure TypeTable where
  entries : List (String × String)
  deriving DecidableEq, Repr

namespace TypeTable

/-- The table with an entry set. -/
def set (t : TypeTable) (go typescript : String) : TypeTable :=
  ⟨Keyed.insert go typescript t.entries⟩

/-- The entry of a text. -/
def lookup (t : TypeTable) (go : String) : Option String := Keyed.lookup go t.entries

/-- How many entries there are. -/
def size (t : TypeTable) : Nat := t.entries.length

/-- The type of a type expression: its entry, or its text. -/
def map (t : TypeTable) (type : TypeExpr) : String := (t.lookup type.text).getD type.text

/-- The numeric types. -/
def numericTypes : List String :=
  ["int", "int8", "int16", "int32", "int64", "uint", "uint8", "uint16", "uint32", "uint64",
    "float32", "float64", "byte", "rune"]

/-- The built-in entries: scalars and times, by themselves and behind a pointer. -/
def builtinEntries : List (String × String) :=
  (numericTypes.map (·, "number") ++
      [("string", "string"), ("bool", "boolean"), ("time.Time", "string")]).flatMap
    fun e => [e, ("*" ++ e.1, e.2 ++ " | null")]

/-- The built-in table. -/
def builtin : TypeTable := ⟨Keyed.ofList builtinEntries⟩

/-- The table with some entries set, in order. -/
def setAll (t : TypeTable) (entries : List (String × String)) : TypeTable :=
  entries.foldl (fun acc e => acc.set e.1 e.2) t

end TypeTable

end SdkGen.TypeScript
