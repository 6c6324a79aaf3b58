import SdkGen.Go.Acceptance
import SdkGen.Go.Mending.Fault
import SdkGen.Go.Mending.Tree
import SdkGen.Go.ParseError
import SdkGen.Go.SourceFile.OfTree
import SdkGen.Text.Blank

/-!
# Parsing source files

A text is read by the grammar. A text that the grammar does not take is mended; if only line ends
have to be supplied, it is taken as mended, and else the first fault is reported.

* `SourceFile.ofNodes`: a file from its top nodes; the first node that may not stand there is
  reported.
* `mendedTrees`: the trees of a text that is to be mended, or what is wrong with it.
* `parse`: all together.
-/

namespace SdkGen.Go

namespace SourceFile

/-- Adds the nodes after the first package clause. -/
def addNodes (file : SourceFile) : List TopNode → Except ParseError SourceFile
  | [] => .ok file
  | .package name _ :: ns => addNodes { file with package := name } ns
  | .declarations ds _ :: ns =>
    addNodes { file with declarations := file.declarations ++ ds } ns
  | .skipped _ :: ns => addNodes file ns
  | .foreign kind pos :: _ => .error (.unexpectedNode kind pos)

/-- The file with some nodes at its top. The first has to be a package clause; a later package
clause replaces it. -/
def ofNodes : List TopNode → Except ParseError SourceFile
  | [] => .error (.missingPackage .start)
  | .package name _ :: ns => addNodes ⟨name, []⟩ ns
  | n :: _ => .error (.missingPackage n.pos)

end SourceFile

/-- The text without a byte order mark at its start. -/
def withoutMark (source : String) : List Char :=
  match source.toList with
  | c :: r => if c = byteOrderMark then r else c :: r
  | [] => []

/-- The first line of a text, trimmed and cut after a few characters. -/
def snippet (cs : List Char) : String :=
  String.ofList ((Blank.trimChars (cs.takeWhile (· ≠ '\n'))).take 24)

/-- A fault of a text, in words. -/
def ParseError.ofFault (cs : List Char) : Fault → ParseError
  | .passedOver start stop =>
    .unexpectedText (snippet ((cs.take stop).drop start)) (Position.start.afterAll (cs.take start))
  | .missing token place => .missingToken token (Position.start.afterAll (cs.take place))

/-- The trees of a mended text, or the first thing that is wrong with it. -/
def mendedTrees (cs : List Char) : Except ParseError (List Tree) :=
  let broken : ParseError := .unexpectedText (snippet cs) .start
  match mend cs with
  | none => .error broken
  | some p =>
    let m := Machine.ofGo.get
    match p.firstFault? m none 0 with
    | some fault => .error (.ofFault cs fault)
    | none =>
      if followed false (p.leaves m) cs then
        match p.trees? m "" none (Cursor.ofChars cs) with
        | some (ts, _) => .ok ts
        | none => .error broken
      else .error broken

/-- Parses a source file. -/
def parse (source : String) : Except ParseError SourceFile := do
  let cs := withoutMark source
  let ts ← match trees? cs with
    | some ts => .ok ts
    | none => mendedTrees cs
  SourceFile.ofNodes (ts.filterMap TopNode.ofTree?)

end SdkGen.Go
