import SdkGen.Template.Tag
import SdkGen.Text.Blank

/-!
# Parsing templates

A template is cut into pieces of text and tags; the tags are then nested. A tag that writes nothing
and stands alone on its line takes the whole line with it, and a `~` takes away the blanks on its
side.

* `Piece`, `pieces`: the pieces of a template.
* `Builder`: the elements so far and the blocks still open.
* `parse?`: the elements of a template.
-/

namespace SdkGen.Template

/-! ## Pieces -/

/-- A tag where it stands: whether nothing but blanks stands on its line, and the blanks before
it. -/
structure PlacedTag where
  read : TagRead
  place : Place
  isAlone : Bool
  indent : List Char

/-- A piece of a template. -/
inductive Piece
  /-- Text after its escapes are resolved, and whether it is nothing but blanks. -/
  | text (s : List Char) (blank : Bool)
  | tag (t : PlacedTag)
  /-- A block whose contents are text as they stand. -/
  | raw (r : RawRead) (opening closing : PlacedTag)

/-- Text up to the next tag, and the rest. A backslash before braces keeps them text; of several
backslashes one is taken away and the tag stays a tag. -/
def readPlain : List Char → List Char × List Char
  | [] => ([], [])
  | '{' :: '{' :: r => ([], '{' :: '{' :: r)
  | '\\' :: '{' :: '{' :: '{' :: '{' :: r => let (s, rest) := readPlain r; (quadOpen ++ s, rest)
  | '\\' :: '{' :: '{' :: r => let (s, rest) := readPlain r; (doubleOpen ++ s, rest)
  | c :: r =>
    if startsEscape (c :: r) then (r.takeWhile (· = '\\'), r.dropWhile (· = '\\'))
    else let (s, rest) := readPlain r; (c :: s, rest)

namespace Place

/-- The place after some characters. -/
def after (p : Place) (cs : List Char) : Place :=
  cs.foldl (fun q c => if c = '\n' then ⟨q.line + 1, 1⟩ else ⟨q.line, q.column + 1⟩) p

end Place

/-- A blank within a line. -/
def isLineBlank (c : Char) : Bool := c = ' ' || c = '\t'

/-- A character that ends a line. -/
def isLineEnd (c : Char) : Bool := c = '\n' || c = '\r'

/-- What is known of the line up to a place: whether it is blank, and the blanks just before. -/
structure Lead where
  isBlank : Bool
  blanks : List Char

namespace Lead

/-- The start of a text. -/
def start : Lead := ⟨true, []⟩

/-- After a tag. -/
def afterTag : Lead := ⟨false, []⟩

/-- After some characters more. -/
def after (l : Lead) (cs : List Char) : Lead :=
  cs.foldl (fun l c =>
    if isLineBlank c then ⟨l.isBlank, l.blanks ++ [c]⟩ else ⟨isLineEnd c, []⟩) l

end Lead

/-- Whether the line is blank from here on; at the end of the text only if nothing is left. -/
def blankFrom (cs : List Char) : Bool :=
  match cs.dropWhile isLineBlank with
  | [] => cs.isEmpty
  | c :: _ => isLineEnd c

/-- A tag behind the given part of its line. -/
def PlacedTag.of (t : TagRead) (place : Place) (lead : Lead) : PlacedTag :=
  ⟨t, place, lead.isBlank && blankFrom t.rest, lead.blanks⟩

/-- The pieces of a template from a place on. `none` where a tag cannot be read. -/
def piecesFrom : Nat → Place → Lead → List Char → Option (List Piece)
  | 0, _, _, _ => none
  | _ + 1, _, _, [] => some []
  | n + 1, place, lead, cs =>
    let passed := fun (rest : List Char) => cs.take (cs.length - rest.length)
    if startsTag cs then
      match readRaw (cs.drop 2) with
      | some r =>
        let bodyPlace := place.after (passed r.opening.rest)
        let opening := PlacedTag.of r.opening place lead
        let closing := PlacedTag.of r.closing (bodyPlace.after r.written)
          (Lead.afterTag.after r.written)
        (piecesFrom n (place.after (passed r.closing.rest)) .afterTag r.closing.rest).map
          (.raw r opening closing :: ·)
      | none =>
        match readTag (cs.drop 2) with
        | some t =>
          (piecesFrom n (place.after (passed t.rest)) .afterTag t.rest).map
            (.tag (.of t place lead) :: ·)
        | none => none
    else
      let (s, rest) := readPlain cs
      let text := passed rest
      (piecesFrom n (place.after text) (lead.after text) rest).map
        (.text s (text.all isTagBlank) :: ·)

/-- The pieces of a template. -/
def pieces (cs : List Char) : Option (List Piece) :=
  piecesFrom (cs.length + 1) ⟨1, 1⟩ .start cs

/-! ## Nesting -/

/-- A part of a block: its call, the names it gives its values, and its elements. -/
structure Clause where
  call : Call
  names : List String
  body : List Element

/-- The kinds of blocks. -/
inductive BlockKind
  | helper
  | decorator
  | inclusion
  deriving DecidableEq

/-- A block that is still open: what stands before it, last first, and its finished clauses, last
first. -/
structure OpenBlock where
  kind : BlockKind
  place : Place
  isAlone : Bool
  call : Call
  names : List String
  before : List Element
  done : List Clause
  /-- Whether its last part has begun. -/
  last : Bool

/-- The elements so far, last first, with the blocks still open. -/
structure Builder where
  elements : List Element
  opened : List OpenBlock
  /-- The blanks that follow are taken away. -/
  trimAfter : Bool
  /-- The rest of the line is taken away. -/
  trimLine : Bool

namespace Builder

/-- Takes blanks of a class off the end of the last text. -/
def trimLast (isBlank : Char → Bool) : List Element → List Element
  | .text s :: es => .text (s.reverse.dropWhile isBlank).reverse :: es
  | es => es

/-- Takes the rest of a blank line and its end away. -/
def withoutLine (cs : List Char) : List Char :=
  match cs.dropWhile isLineBlank with
  | '\r' :: '\n' :: r => r
  | '\n' :: r => r
  | r => r

/-- What is left of text. -/
def trimmed (b : Builder) (s : List Char) : List Char :=
  if b.trimAfter then s.dropWhile Blank.isBlank
  else if b.trimLine then withoutLine s
  else s

/-- Adds text. -/
def addText (b : Builder) (s : List Char) (blank : Bool) : Builder :=
  if b.trimAfter && blank then b
  else { b with elements := .text (b.trimmed s) :: b.elements, trimLine := false }

/-- Gives way to a tag: takes blanks before it away as its mark says. -/
def trimBefore (b : Builder) (t : PlacedTag) : Builder :=
  { b with
    elements := if t.read.trimBefore then trimLast Blank.isBlank b.elements else b.elements
    trimAfter := t.read.trimAfter }

/-- Gives way to a tag that writes nothing: takes its line away as well, if it stands alone. -/
def makeWay (b : Builder) (t : PlacedTag) : Builder :=
  let b := b.trimBefore t
  { b with
    elements := if t.isAlone then trimLast isLineBlank b.elements else b.elements
    trimLine := t.isAlone }

/-- The block over finished clauses, last first, with what stands after the last `else`. -/
def close (o : OpenBlock) : List Clause → Option (List Element) → Option Element
  | [], _ => none
  | [c], otherwise => some (.block o.place o.isAlone c.call c.names c.body otherwise)
  | c :: d :: cs, otherwise =>
    close o (d :: cs) (some [.block o.place o.isAlone c.call c.names c.body otherwise])

/-- Opens a block. -/
def openBlock (b : Builder) (kind : BlockKind) (t : PlacedTag) (c : Call) (names : List String) :
    Builder :=
  let w := b.makeWay t
  let isAlone := t.isAlone && !t.read.trimBefore
  { w with
    elements := []
    opened := ⟨kind, t.place, isAlone, c, names, w.elements, [], false⟩ :: b.opened }

/-- Goes on to the next part of the innermost block. -/
def nextClause (b : Builder) (c : Call) (names : List String) (last : Bool) : Option Builder :=
  match b.opened with
  | [] => none
  | o :: os =>
    if o.last || o.kind ≠ .helper then none
    else
      let finished : Clause := ⟨o.call, o.names, b.elements.reverse⟩
      some { b with
        elements := []
        opened := { o with call := c, names := names, done := finished :: o.done,
                           last := last } :: os }

/-- The call of the first clause of an open block. -/
def firstCall (o : OpenBlock) : Call := (o.done.getLast?.map Clause.call).getD o.call

/-- The element of a block that is closed, with the elements of its last part. -/
def closed (o : OpenBlock) (body : List Element) : Option Element :=
  match o.kind with
  | .decorator => some (.decorator o.place o.call (some body))
  | .inclusion => some (.inclusion o.place o.isAlone none o.call (some body))
  | .helper =>
    if o.last then close o o.done (some body) else close o (⟨o.call, o.names, body⟩ :: o.done) none

/-- Closes the innermost block, whose name has to be repeated. -/
def closeBlock (b : Builder) (name : String) : Option Builder :=
  match b.opened with
  | [] => none
  | o :: os =>
    if (firstCall o).name? = some name then
      (closed o b.elements.reverse).map fun e => { b with elements := e :: o.before, opened := os }
    else none

/-- Adds an element. -/
def push (b : Builder) (e : Element) : Builder := { b with elements := e :: b.elements }

/-- Adds a block of raw text. -/
def addRaw (b : Builder) (r : RawRead) (opening closing : PlacedTag) : Option Builder :=
  let inside := b.openBlock .helper opening r.call r.names
  let filled := (inside.push (.text (inside.trimmed r.meant))).makeWay closing
  match closing.read.tag with
  | .closing name => filled.closeBlock name
  | _ => none

/-- Adds a tag. A comment leaves an empty text, at which trimming ends. -/
def addTag (b : Builder) (t : PlacedTag) : Option Builder :=
  match t.read.tag with
  | .expression c => some ((b.trimBefore t).push (.expression t.place c))
  | .decorator c => some ((b.makeWay t).push (.decorator t.place c none))
  | .inclusion c =>
    let indent := if t.indent.isEmpty || t.read.trimBefore then none else some t.indent
    let isAlone := t.isAlone && !t.read.trimBefore
    some ((b.makeWay t).push (.inclusion t.place isAlone indent c none))
  | .comment => some ({ b.makeWay t with trimAfter := b.trimAfter }.push (.text []))
  | .opening c names => some (b.openBlock .helper t c names)
  | .decoratorOpening c => some (b.openBlock .decorator t c [])
  | .inclusionOpening c => some (b.openBlock .inclusion t c [])
  | .otherwise => (b.makeWay t).nextClause default [] true
  | .otherwiseCall c names => (b.makeWay t).nextClause c names false
  | .closing name => (b.makeWay t).closeBlock name

/-- Adds a piece. -/
def add (b : Builder) : Piece → Option Builder
  | .text s blank => some (b.addText s blank)
  | .tag t => b.addTag t
  | .raw r opening closing => b.addRaw r opening closing

/-- Adds pieces in order. -/
def addAll (b : Builder) : List Piece → Option Builder
  | [] => some b
  | p :: ps =>
    match b.add p with
    | some b' => b'.addAll ps
    | none => none

end Builder

/-- The elements of a template; `none` where it cannot be parsed. -/
def parse? (cs : List Char) : Option (List Element) :=
  match pieces cs with
  | none => none
  | some ps =>
    match Builder.addAll ⟨[], [], false, false⟩ ps with
    | some b => if b.opened.isEmpty then some b.elements.reverse else none
    | none => none

end SdkGen.Template
