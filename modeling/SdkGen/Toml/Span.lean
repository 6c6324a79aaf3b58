/-!
# Spans and faults of a TOML text

A span is a range of byte offsets. A fault is a remark about one. `Fault.report` shows the line
that the fault is in, with marks below the span, and then the remark.

* `Span`: where something stands.
* `Fault`: what is wrong there.
* `Fault.report`: what the user reads.
-/

namespace SdkGen.Toml

/-- A range of byte offsets; the end is left out. -/
structure Span where
  start : Nat
  stop : Nat
  deriving DecidableEq, Repr, Inhabited

namespace Span

/-- From the start of one span to the end of another. -/
def through (a b : Span) : Span := ⟨a.start, b.stop⟩

/-- The empty span just before. -/
def before (s : Span) : Span := ⟨s.start, s.start⟩

/-- The empty span just after. -/
def after (s : Span) : Span := ⟨s.stop, s.stop⟩

end Span

/-- A remark about a part of the text. -/
structure Fault where
  span : Span
  text : String
  deriving DecidableEq, Repr, Inhabited

namespace Fault

/-- A remark that also says what could stand there. -/
def expecting (span : Span) (text : String) (expected : List String) : Fault :=
  ⟨span, text ++ ", expected " ++
    (if expected.isEmpty then "nothing" else ", ".intercalate expected)⟩

/-- A line of a text: its number, its first byte offset, its characters. -/
structure Line where
  number : Nat
  start : Nat
  chars : List Char
  deriving DecidableEq, Repr

/-- The number of bytes of a run of characters. -/
def byteLength (cs : List Char) : Nat := cs.foldl (fun n c => n + c.utf8Size) 0

/-- The line in which the byte offset lies; a line feed belongs to the line that it ends. -/
def lineAt (offset : Nat) (number start : Nat) (cs : List Char) : Line :=
  let line := cs.takeWhile (· ≠ '\n')
  let next := start + byteLength line + 1
  match h : cs.dropWhile (· ≠ '\n') with
  | [] => ⟨number, start, line⟩
  | _ :: rest =>
    if offset < next then ⟨number, start, line⟩
    else if rest.isEmpty then ⟨number, start, line⟩
    else lineAt offset (number + 1) next rest
termination_by cs.length
decreasing_by
  have := congrArg List.length h
  have := (List.dropWhile_suffix (l := cs) (· ≠ '\n')).length_le
  simp only [List.length_cons] at *
  omega

/-- The column of a byte offset in a line, from zero: characters up to an ASCII character, bytes
up to any other, and one more for each byte past the end of the text. -/
def columnAt (line : Line) (offset : Nat) : Nat :=
  go line.chars (offset - line.start) 0 (offset - line.start)
where
  go : List Char → Nat → Nat → Nat → Nat
    | [], left, count, _ => count + left
    | c :: cs, left, count, bytes =>
      if left = 0 then (if c.toNat < 128 then count else bytes)
      else go cs (left - c.utf8Size) (count + 1) bytes

/-- The line of the fault with its span marked, and the remark. -/
def report (source : String) (f : Fault) : String :=
  let line := lineAt f.span.start 1 0 source.toList
  let column := columnAt line f.span.start
  let number := toString line.number
  let gutter := String.ofList (List.replicate (number.length + 1) ' ') ++ "|"
  let width := min (f.span.stop - f.span.start) (byteLength line.chars - column)
  s!"TOML parse error at line {number}, column {column + 1}\n" ++
    gutter ++ "\n" ++
    s!"{number} | {String.ofList line.chars}\n" ++
    gutter ++ String.ofList (List.replicate (column + 1) ' ') ++
    String.ofList (List.replicate (max width 1) '^') ++ "\n" ++
    f.text ++ "\n"

end Fault

end SdkGen.Toml
