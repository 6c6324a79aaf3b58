/-!
# Layout

What is rendered is a tree of texts. A template that is included with blanks before its tag has
these blanks before each of its lines.

* `Output`: what is rendered.
* `Margin`: what is known at a place of the output.
* `Output.layout`: the text of some outputs.
-/

namespace SdkGen.Template

/-- What is rendered. -/
inductive Output
  | text (s : List Char)
  /-- What a helper renders; its tag may stand alone on its line. -/
  | helper (isAlone : Bool) (parts : List Output)
  /-- What an included template renders, with the blanks before its tag. -/
  | inclusion (isAlone : Bool) (indent : Option (List Char)) (parts : List Output)

/-- What is known at a place of the output. -/
structure Margin where
  /-- The blanks before each line. -/
  indent : Option (List Char)
  /-- Whether what was written last ended a line. -/
  endsLine : Bool
  /-- Whether the blanks come before what is written next. -/
  isDue : Bool
  /-- Whether anything was written since the innermost tag began. -/
  hasWritten : Bool
  deriving DecidableEq, Repr

namespace Margin

/-- At the start of the output. -/
def start : Margin := ⟨none, false, false, false⟩

/-- A character that ends a line. -/
def isBreak (c : Char) : Bool := c = '\n' || c = '\r'

/-- A text with the blanks before each of its lines but the first; none after its last line end. -/
def indented (indent : List Char) : List Char → List Char
  | [] => []
  | [c] => [c]
  | c :: d :: cs =>
    if c = '\n' then c :: indent ++ indented indent (d :: cs)
    else c :: indented indent (d :: cs)

/-- Writes a text. -/
def write (m : Margin) (s : List Char) : List Char × Margin :=
  match s with
  | [] => ([], m)
  | c :: _ =>
    let indent := m.indent.getD []
    let lead := if m.isDue && !isBreak c then indent else []
    let ends := (s.getLast?.map isBreak).getD false
    (lead ++ indented indent s, ⟨m.indent, ends, ends, true⟩)

/-- Before what a helper renders. -/
def enterHelper (m : Margin) (isAlone : Bool) : Margin :=
  { m with isDue := m.isDue || (isAlone && m.endsLine), hasWritten := false }

/-- Before what an included template renders. -/
def enterInclusion (m : Margin) (isAlone : Bool) (indent : Option (List Char)) : Margin :=
  { m with
    indent := match m.indent, indent with
      | some a, some b => some (a ++ b)
      | some a, none => some a
      | none, b => b
    isDue := isAlone && (m.endsLine || indent.isSome)
    hasWritten := false }

/-- After what a tag renders, with the margin before and at the end of it. -/
def leave (before after : Margin) : Margin :=
  if after.hasWritten then ⟨before.indent, after.endsLine, after.endsLine, true⟩
  else ⟨before.indent, after.endsLine, before.isDue, before.hasWritten⟩

end Margin

mutual

/-- The text of an output, and the margin after it. -/
def Output.layout (m : Margin) : Output → List Char × Margin
  | .text s => m.write s
  | .helper isAlone parts =>
    let (s, after) := layoutAll (m.enterHelper isAlone) parts
    (s, m.leave after)
  | .inclusion isAlone indent parts =>
    let (s, after) := layoutAll (m.enterInclusion isAlone indent) parts
    (s, m.leave after)

/-- The text of some outputs, and the margin after them. -/
def layoutAll (m : Margin) : List Output → List Char × Margin
  | [] => ([], m)
  | o :: os =>
    let (s, m) := o.layout m
    let (t, m) := layoutAll m os
    (s ++ t, m)

end

end SdkGen.Template
