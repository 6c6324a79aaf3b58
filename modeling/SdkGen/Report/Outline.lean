import SdkGen.Report.Flat
import SdkGen.Text.Occurrence

/-!
# Outlines

A value as an indented outline, in colour or plain.

* `Paint`: the colours of an outline.
* `outline`: the lines of a value.
-/

namespace SdkGen.Report

open Json (Value)

/-- How a part of an outline is painted. -/
inductive Paint
  | key
  | faint
  | truth
  | number
  | text
  deriving DecidableEq, Repr

namespace Paint

/-- The terminal's code of a paint. -/
def code : Paint → String
  | key => "1;34"
  | faint => "2"
  | truth => "33"
  | number => "36"
  | text => "32"

/-- The sequence that turns a paint on. -/
def on (p : Paint) : List Char := "\x1b[".toList ++ p.code.toList ++ ['m']

/-- The sequence that turns every paint off. -/
def off : List Char := "\x1b[0m".toList

/-- Turns the paint on again after each sequence that turns it off. -/
def renewed (p : Paint) : Nat → List Char → List Char
  | 0, cs => cs
  | n + 1, cs =>
    match Occurrence.splitFirst off cs with
    | some (before, after) => before ++ off ++ p.on ++ renewed p n after
    | none => cs

/-- A text in a paint, or plain. -/
def apply (p : Paint) (colored : Bool) (s : String) : String :=
  if colored then
    String.ofList (p.on ++ renewed p s.length s.toList ++ off)
  else s

end Paint

/-- Whether a value takes lines of its own. -/
def isNested : Value → Bool
  | .array items => !items.isEmpty
  | .object members => !members.isEmpty
  | .null => false
  | .bool _ => false
  | .number _ => false
  | .string _ => false

/-- The text of a value that takes no lines of its own. -/
def outlineScalar (colored : Bool) : Value → String
  | .null => Paint.faint.apply colored "null"
  | .bool b => Paint.truth.apply colored (if b then "true" else "false")
  | .number n => Paint.number.apply colored n.text
  | .string s => Paint.text.apply colored s
  | .array _ => Paint.faint.apply colored "[]"
  | .object _ => Paint.faint.apply colored "\x7b\x7d"

/-- Two blanks per level. -/
def pad (level : Nat) : String := String.ofList (List.replicate (2 * level) ' ')

mutual

/-- The lines of a value at a level. -/
def outlineLines (colored : Bool) (level : Nat) : Value → String
  | .array items => outlineItems colored level items
  | .object members => outlineMembers colored level members
  | .null => pad level ++ outlineScalar colored .null ++ "\n"
  | .bool b => pad level ++ outlineScalar colored (.bool b) ++ "\n"
  | .number n => pad level ++ outlineScalar colored (.number n) ++ "\n"
  | .string s => pad level ++ outlineScalar colored (.string s) ++ "\n"

/-- The lines of an array's items. -/
def outlineItems (colored : Bool) (level : Nat) : List Value → String
  | [] => ""
  | v :: vs =>
    let dash := pad level ++ Paint.faint.apply colored "-"
    let item := if isNested v then dash ++ "\n" ++ outlineLines colored (level + 1) v
      else dash ++ " " ++ outlineScalar colored v ++ "\n"
    item ++ outlineItems colored level vs

/-- The lines of an object's members. -/
def outlineMembers (colored : Bool) (level : Nat) : List (String × Value) → String
  | [] => ""
  | (k, v) :: ms =>
    let key := pad level ++ Paint.key.apply colored k ++ ":"
    let member := if isNested v then key ++ "\n" ++ outlineLines colored (level + 1) v
      else key ++ " " ++ outlineScalar colored v ++ "\n"
    member ++ outlineMembers colored level ms

end

/-- The outline of a value, without blanks at the end. -/
def outline (colored : Bool) (v : Value) : String :=
  Blank.trimEnd (outlineLines colored 0 v)

end SdkGen.Report
