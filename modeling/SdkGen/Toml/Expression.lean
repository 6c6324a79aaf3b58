import SdkGen.Toml.Raw

/-!
# Expressions of TOML

A document is a sequence of expressions: table headers and entries. Keys and scalars stand in
them as they are written.

* `ValueSyntax`, `Expression`: what a document is made of.
* `Expression.ofText`: the expressions of a text, or the fault that stands first in it.
-/

namespace SdkGen.Toml

/-- A value as it is written. -/
inductive ValueSyntax
  | scalar (raw : Raw)
  | array (items : List ValueSyntax) (span : Span)
  | table (entries : List (List Raw × ValueSyntax)) (span : Span)
  deriving Repr, Inhabited

/-- The header of a table, or of one more table of a list. -/
structure Header where
  isList : Bool
  path : List Raw
  span : Span
  deriving DecidableEq, Repr, Inhabited

/-- A line of a document. -/
inductive Expression
  | header (header : Header)
  | entry (key : List Raw) (value : ValueSyntax)
  deriving Repr, Inhabited

namespace Expression

/-! ## Between expressions -/

/-- Whether a character may stand in a comment or in a quotation. -/
def isPrintable (c : Char) : Bool := c = '\t' || (32 ≤ c.toNat && c.toNat ≠ 127)

/-- The fault of a carriage return by itself, before the given place. -/
def strayReturn (place : Span) : Fault :=
  .expecting place "carriage return must be followed by newline" ["newline"]

/-- Passes a blank, a comment or a line end, unless it is wrong in itself. -/
def pass (t : Token) : Except Fault Unit :=
  match t.kind with
  | .comment =>
    let sound := t.chars.takeWhile isPrintable
    if sound.length = t.chars.length then .ok ()
    else
      let place := t.span.start + Fault.byteLength sound
      .error (.expecting ⟨place, place⟩ "invalid comment character" ["printable characters"])
  | .newline => if t.chars = ['\r'] then .error (strayReturn t.span.after) else .ok ()
  | _ => .ok ()

/-- The tokens after blanks. -/
def afterBlanks (ts : List Token) : List Token := ts.dropWhile (·.kind = .blank)

/-- Whether a line, or what of it counts, ends at a token. -/
def endsLine (t : Token) : Bool := t.kind = .newline || t.kind = .comment || t.kind = .stop

/-- The tokens from the end of the line on, if nothing but blanks stands before it. -/
def lineEnd (ts : List Token) : Except Fault (List Token) :=
  match afterBlanks ts with
  | [] => .ok []
  | t :: rest =>
    if endsLine t then .ok (t :: rest)
    else .error (.expecting t.span.before "unexpected key or value" ["newline", "`#`"])

/-- The place of the last token that is no blank, comment or line end. -/
def lastSpan (last : Span) : List Token → Span
  | [] => last
  | t :: ts => lastSpan (if t.kind = .blank || endsLine t then last else t.span) ts

/-! ## Keys -/

/-- The parts of a dotted key; a part that is missing is empty. `due` says that a part comes
next, and not a dot. -/
def keyParts (due : Bool) : List Token → List Raw × List Token
  | [] => ([], [])
  | t :: ts =>
    match t.kind, due with
    | .blank, _ => keyParts due ts
    | .dot, false => keyParts true ts
    | .dot, true =>
      let (parts, rest) := keyParts true ts
      (.empty t.span.before :: parts, rest)
    | .text q, true =>
      let (parts, rest) := keyParts false ts
      (⟨q, t.chars, t.span⟩ :: parts, rest)
    | _, true => ([.empty t.span.before], t :: ts)
    | _, false => ([], t :: ts)

/-- Whether a key lacks its last part. -/
def endsShort (path : List Raw) : Bool := (path.getLast?.map Raw.isMissing).getD true

/-! ## Values -/

/-- A bare scalar with what goes on with it: dots, bare texts, and bare texts after blanks. -/
def bareScalar (raw : Raw) : List Token → Raw × List Token
  | [] => (raw, [])
  | [t] =>
    if t.kind = .dot || t.kind = .text .bare then (raw.append t, []) else (raw, [t])
  | t :: u :: ts =>
    if t.kind = .dot || t.kind = .text .bare then bareScalar (raw.append t) (u :: ts)
    else if t.kind = .blank && u.kind = .text .bare then bareScalar ((raw.append t).append u) ts
    else (raw, t :: u :: ts)

/-- What an inline table needs next. -/
inductive Due
  | key
  | equals (key : List Raw)
  | value (key : List Raw)
  | comma
  deriving DecidableEq, Repr

/-- The name of what is due. -/
def Due.name : Due → String
  | key => "key"
  | equals _ => "`=`"
  | value _ => "value"
  | comma => "`,`"

/-- How deep arrays and inline tables may stand in each other. -/
def depthLimit : Nat := 80

/-- The fault of what stands too deep. -/
def tooDeep (opening : Token) : Fault :=
  ⟨opening.span, "cannot recurse further; max recursion depth met"⟩

/-- The fault of an array that the text ends in, after its last token. -/
def unclosedArray (last : Span) : Fault := .expecting last.after "unclosed array" ["`]`"]

/-- The fault of an inline table that the text ends in, after its last token. -/
def unclosedTable (last : Span) : Fault :=
  .expecting last.after "unclosed inline table" ["`\x7d`"]

/-- The fault of a closing brace without its opening. -/
def unopenedTable (t : Token) : Fault :=
  .expecting t.span.before "missing inline table opening" ["`\x7b`"]

/-- The fault of a closing bracket without its opening. -/
def unopenedArray (t : Token) : Fault := .expecting t.span.before "missing array opening" ["`[`"]

/-- The fault of a token where an inline table needs something else. -/
def notDue (t : Token) (due : Due) : Fault :=
  let fault := fun text => Fault.expecting t.span.before text [due.name]
  match t.kind, due with
  | .comma, _ => fault "extra comma in inline table"
  | .equals, _ => fault "extra assignment between key-value pairs"
  | .closeSquare, _ => fault "invalid inline table element"
  | _, .equals _ => fault "missing assignment between key-value pairs"
  | .openSquare, _ => fault "missing key for inline table element"
  | .openCurly, _ => fault "missing key for inline table element"
  | _, _ => fault "missing comma between key-value pairs"

mutual

/-- A value, in which `room` more arrays and inline tables may stand in each other. The last token
of the text is at `last`. -/
def value (last : Span) : Nat → Nat → List Token → Except Fault (ValueSyntax × List Token)
  | 0, _, ts => .ok (.scalar (.empty last.after), ts)
  | _, _, [] => .ok (.scalar (.empty last.after), [])
  | fuel + 1, room, t :: ts =>
    match t.kind, room with
    | .equals, _ => .error (.expecting t.span "extra `=`" [])
    | .openCurly, 0 => .error (tooDeep t)
    | .openSquare, 0 => .error (tooDeep t)
    | .openCurly, room + 1 => entries last fuel room t .key [] ts
    | .openSquare, room + 1 => items last fuel room t true [] ts
    | .closeCurly, _ => .error (unopenedTable t)
    | .closeSquare, _ => .error (unopenedArray t)
    | .text .bare, _ =>
      let (raw, rest) := bareScalar ⟨.bare, t.chars, t.span⟩ ts
      .ok (.scalar raw, rest)
    | .dot, _ =>
      let (raw, rest) := bareScalar ⟨.bare, t.chars, t.span⟩ ts
      .ok (.scalar raw, rest)
    | .text q, _ => .ok (.scalar ⟨q, t.chars, t.span⟩, ts)
    | _, _ => .ok (.scalar (.empty t.span.before), t :: ts)

/-- The rest of an array after its opening; `due` says that a value comes next. -/
def items (last : Span) : Nat → Nat → Token → Bool → List ValueSyntax → List Token →
    Except Fault (ValueSyntax × List Token)
  | 0, _, _, _, _, _ => .error (unclosedArray last)
  | _, _, _, _, _, [] => .error (unclosedArray last)
  | fuel + 1, room, opening, due, acc, t :: ts =>
    let next := do
      if due then
        let (v, rest) ← value last fuel room (t :: ts)
        items last fuel room opening false (v :: acc) rest
      else .error (.expecting t.span.before "missing comma between array elements" ["`,`"])
    match t.kind with
    | .blank => items last fuel room opening due acc ts
    | .newline => do pass t; items last fuel room opening due acc ts
    | .comment => do pass t; items last fuel room opening due acc ts
    | .stop => .error (unclosedArray last)
    | .comma =>
      if due then .error (.expecting t.span "extra comma in array" ["value"])
      else items last fuel room opening true acc ts
    | .equals =>
      .error (.expecting t.span "unexpected `=` in array" [if due then "value" else "`,`", "`]`"])
    | .closeSquare => .ok (.array acc.reverse (opening.span.through t.span), ts)
    | .closeCurly => next
    | .openCurly => next
    | .openSquare => next
    | .dot => next
    | .text _ => next

/-- The rest of an inline table after its opening. -/
def entries (last : Span) : Nat → Nat → Token → Due → List (List Raw × ValueSyntax) →
    List Token → Except Fault (ValueSyntax × List Token)
  | 0, _, _, _, _, _ => .error (unclosedTable last)
  | _, _, _, _, _, [] => .error (unclosedTable last)
  | fuel + 1, room, opening, due, acc, t :: ts =>
    let close := fun acc => .ok (.table (List.reverse acc) (opening.span.through t.span), ts)
    let next := fun key => do
      let (v, rest) ← value last fuel room (t :: ts)
      entries last fuel room opening .comma ((key, v) :: acc) rest
    match t.kind, due with
    | .blank, _ => entries last fuel room opening due acc ts
    | .newline, _ => do pass t; entries last fuel room opening due acc ts
    | .comment, _ => do pass t; entries last fuel room opening due acc ts
    | .stop, _ => .error (unclosedTable last)
    | .comma, .comma => entries last fuel room opening .key acc ts
    | .equals, .key => entries last fuel room opening (.value [.empty t.span.before]) acc ts
    | .equals, .equals key => entries last fuel room opening (.value key) acc ts
    | .closeCurly, .key => close acc
    | .closeCurly, .comma => close acc
    | .closeCurly, .value key => close ((key, .scalar (.empty t.span.before)) :: acc)
    | .text _, .key =>
      let (key, rest) := keyParts true (t :: ts)
      entries last fuel room opening (.equals key) acc rest
    | .dot, .key =>
      let (key, rest) := keyParts true (t :: ts)
      entries last fuel room opening (.equals key) acc rest
    | .text _, .value key => next key
    | .dot, .value key => next key
    | .openCurly, .value key => next key
    | .openSquare, .value key => next key
    | .closeSquare, .value _ => .error (unopenedArray t)
    | _, _ => .error (notDue t due)

end

/-! ## Lines -/

/-- The header that an opening bracket starts, and what follows it on its line. What is not closed
after a key that lacks its last part is left to the check of the key. -/
def readHeader (opening : Token) (ts : List Token) : Except Fault (Header × List Token) :=
  let second := ts.head?.filter (·.kind = .openSquare)
  let isList := second.isSome
  let (path, rest) := keyParts true (if isList then ts.drop 1 else ts)
  let lastKey := ((path.filter (!·.isMissing)).getLast?.map Raw.span).getD opening.span
  let name := if isList then "unclosed array table" else "unclosed table"
  let closed := fun (closing : Token) (after : List Token) => do
    return (⟨isList, path, opening.span.through closing.span⟩, ← lineEnd after)
  match rest, isList with
  | ⟨.closeSquare, _, _⟩ :: ⟨.closeSquare, cs, span⟩ :: after, true =>
    closed ⟨.closeSquare, cs, span⟩ after
  | ⟨.closeSquare, _, span⟩ :: _, true => .error (.expecting span.after name ["`]`"])
  | ⟨.closeSquare, cs, span⟩ :: after, false => closed ⟨.closeSquare, cs, span⟩ after
  | rest, _ =>
    if endsShort path then .ok (⟨isList, path, opening.span⟩, rest.dropWhile (!endsLine ·))
    else .error (.expecting lastKey.after name [if isList then "`]]`" else "`]`"])

/-- The entry that starts here, and what follows it on its line. -/
def readEntry (last : Span) (ts : List Token) : Except Fault (Expression × List Token) :=
  let (key, rest) := keyParts true ts
  match rest with
  | ⟨.equals, _, _⟩ :: rest => do
    let (v, rest) ← value last (2 * rest.length + 2) depthLimit (afterBlanks rest)
    return (.entry key v, ← lineEnd rest)
  | rest =>
    let place := (rest.head?.map (·.span.before)).getD last.after
    let startsShort := (key.head?.map Raw.isMissing).getD true
    .error (.expecting place (if startsShort then "missing value for key" else "key with no value")
      ["`=`"])

/-- The expressions of a sequence of tokens, or the first fault. -/
def readAll (last : Span) : Nat → List Token → Except Fault (List Expression)
  | 0, _ => .ok []
  | _, [] => .ok []
  | fuel + 1, t :: ts =>
    let entry := do
      let (e, rest) ← readEntry last (t :: ts)
      return e :: (← readAll last fuel rest)
    let noKey := .error (.expecting t.span.before "invalid key-value pair" ["key"])
    match t.kind with
    | .stop => .ok []
    | .blank => readAll last fuel ts
    | .newline => do pass t; readAll last fuel ts
    | .comment => do pass t; readAll last fuel ts
    | .openSquare => do
      let (h, rest) ← readHeader t ts
      return .header h :: (← readAll last fuel rest)
    | .closeSquare => .error (.expecting t.span.before "missing table open" ["`[`"])
    | .comma => noKey
    | .openCurly => noKey
    | .closeCurly => noKey
    | .equals => entry
    | .dot => entry
    | .text _ => entry

/-- The expressions of a text, or the fault that stands first in it. -/
def ofText (text : String) : Except Fault (List Expression) :=
  let ts := Token.ofText text
  readAll (lastSpan ⟨0, 0⟩ ts) (ts.length + 1) ts

end Expression

end SdkGen.Toml
