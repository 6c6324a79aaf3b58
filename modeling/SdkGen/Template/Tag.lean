import SdkGen.Template.Literal

/-!
# Tags

Each reader takes a text and gives what it read with the rest, or nothing.

* `readPath`, `readParam`, `readCall`: what stands in a tag.
* `Tag`: the kinds of tags.
* `readTag`, `readRaw`: one tag, or one block of raw text, with its whitespace marks.
-/

namespace SdkGen.Template

/-- Reads a name. -/
def readName : Reader String := fun cs =>
  let name := cs.takeWhile isSymbol
  if name.isEmpty then none else some (String.ofList name, cs.drop name.length)

/-! ## Paths -/

/-- Reads one step of a path: a name, or anything in square brackets. -/
def readStep : Reader String := fun cs =>
  match cs with
  | '[' :: r =>
    let name := r.takeWhile (· ≠ ']')
    match r.drop name.length with
    | ']' :: rest => some (String.ofList name, rest)
    | _ => none
  | _ => readName cs

/-- Passes a separator of steps. -/
def separator? : List Char → Option (List Char)
  | c :: r => if c = '.' || c = '/' then some r else none
  | [] => none

/-- Reads the further steps of a path. -/
def readSteps : Nat → List Char → List String × List Char
  | 0, cs => ([], cs)
  | n + 1, cs =>
    match (separator? cs).bind readStep with
    | some (name, rest) => let (names, rest) := readSteps n rest; (name :: names, rest)
    | none => ([], cs)

/-- Passes the upward steps of a path. -/
def readUps : Nat → List Char → Nat × List Char
  | 0, cs => (0, cs)
  | n + 1, cs =>
    match (literally ['.', '.'] cs).bind separator? with
    | some rest => let (ups, rest) := readUps n rest; (ups + 1, rest)
    | none => (0, cs)

/-- Passes a reference to the current data at the start of a path. -/
def skipCurrent (cs : List Char) : List Char :=
  match (literally ['t', 'h', 'i', 's'] cs).bind separator? with
  | some rest => rest
  | none => (literally ['.', '/'] cs).getD cs

/-- Passes a reference to the root of the data. -/
def skipRoot (cs : List Char) : Bool × List Char :=
  match (literally ['@', 'r', 'o', 'o', 't'] cs).bind separator? with
  | some rest => (true, rest)
  | none => (false, cs)

/-- Reads a path; the step `this` stays where it is. -/
def readPath : Reader Path := fun cs =>
  let (fromRoot, afterRoot) := skipRoot (skipCurrent cs)
  let (isLocal, afterMark) := flag '@' afterRoot
  let (ups, afterUps) := readUps cs.length afterMark
  match readStep afterUps with
  | some (first, rest) =>
    let (more, rest) := readSteps cs.length rest
    let raw := String.ofList (cs.take (cs.length - rest.length))
    some (⟨raw, fromRoot, isLocal, ups, (first :: more).filter (· ≠ "this")⟩, rest)
  | none => none

/-! ## Calls -/

/-- Whether a word stands here that is no parameter: one of two, if no name follows it. -/
def atKeyword (cs : List Char) : Bool :=
  let after := (literally ['a', 's'] cs) <|> (literally ['e', 'l', 's', 'e'] cs)
  after.any fun rest => endsName (skip rest)

/-- One parameter, named or not. -/
inductive Argument
  | plain (p : Param)
  | named (key : String) (p : Param)

/-- The call of a head with arguments; of two with one name the later counts. -/
def callOf (head : Param) (args : List Argument) : Call :=
  .mk head (args.filterMap fun a => match a with | .plain p => some p | .named _ _ => none)
    (Keyed.ofList (args.filterMap fun a =>
      match a with | .plain _ => none | .named k p => some (k, p)))

/-- The path of a single name. -/
def namePath (name : String) : Path :=
  ⟨name, false, false, 0, if name = "this" then [] else [name]⟩

mutual

/-- Reads one parameter. -/
def readParam : Nat → Reader Param
  | 0, _ => none
  | n + 1, cs =>
    if atKeyword cs then none
    else match readLiteral false n cs with
      | some (v, rest) => some ((v.map Param.literal).getD .invalid, rest)
      | none =>
        match readPath cs with
        | some (p, rest) => some (.path p, rest)
        | none => readSubexpression n cs

/-- Reads a call in parentheses: a name with parameters, or a path. -/
def readSubexpression : Nat → Reader Param
  | 0, _ => none
  | n + 1, cs =>
    match cs with
    | '(' :: r =>
      let inside := skip r
      let bare := (readPath inside).map fun (p, rest) => (Call.mk (.path p) [] [], rest)
      match readApplied n inside <|> bare with
      | some (c, rest) =>
        match skip rest with
        | ')' :: rest => some (.call c, rest)
        | _ => none
      | none => none
    | _ => none

/-- Reads a parameter with or without a name. -/
def readArgument : Nat → Reader Argument
  | 0, _ => none
  | n + 1, cs =>
    let named := do
      let (key, rest) ← readName cs
      let value ← literally ['='] (skip rest)
      let (p, rest) ← readParam n (skip value)
      return (Argument.named key p, rest)
    match named with
    | some r => some r
    | none => (readParam n cs).map fun (p, rest) => (Argument.plain p, rest)

/-- Reads parameters as long as there are any. -/
def readArguments : Nat → List Char → List Argument × List Char
  | 0, cs => ([], cs)
  | n + 1, cs =>
    match readArgument n (skip cs) with
    | some (a, rest) => let (as, rest) := readArguments n rest; (a :: as, rest)
    | none => ([], cs)

/-- Reads a name with at least one parameter. -/
def readApplied : Nat → Reader Call
  | 0, _ => none
  | n + 1, cs =>
    match readName cs with
    | some (name, rest) =>
      match readArguments n rest with
      | ([], _) => none
      | (args, rest) => some (callOf (.path (namePath name)) args, rest)
    | none => none

end

/-- Reads a call in parentheses or a path. -/
def readHead (n : Nat) : Reader Param := fun cs =>
  match readSubexpression n cs with
  | some r => some r
  | none => (readPath cs).map fun (p, rest) => (.path p, rest)

/-- Reads what stands in a tag that writes a value. -/
def readCall (n : Nat) : Reader Call := fun cs =>
  match readApplied n cs with
  | some r => some r
  | none => (readHead n cs).map fun (p, rest) => (.mk p [] [], rest)

/-- Reads the names that a block gives its values. -/
def readBlockNames (cs : List Char) : Option (List String × List Char) := do
  let rest ← literally ['a', 's'] cs
  let rest ← literally ['|'] (skip rest)
  let (first, rest) ← readName (skip rest)
  match readName (skip rest) with
  | some (second, rest) => return ([first, second], ← literally ['|'] (skip rest))
  | none => return ([first], ← literally ['|'] (skip rest))

/-- Reads a name with parameters or without, and the names that a block gives its values. -/
def readBlockHead (n : Nat) : Reader (Call × List String) := fun cs =>
  match readName cs with
  | some (name, rest) =>
    let (args, rest) := readArguments n rest
    let c := callOf (.path (namePath name)) args
    match readBlockNames (skip rest) with
    | some (names, rest) => some ((c, names), rest)
    | none => some ((c, []), rest)
  | none => none

/-! ## Names of templates -/

/-- A character of the name of a template. -/
def isTemplateSymbol (c : Char) : Bool :=
  c.isAlphanum || c = '_' || c = '-' || c = '.' || c = '/' || c.toNat ≥ 128

/-- Reads the name of a template; one in single quotes keeps them. -/
def readTemplateName : Reader String := fun cs =>
  let name := cs.takeWhile isTemplateSymbol
  if !name.isEmpty then some (String.ofList name, cs.drop name.length)
  else match cs with
    | '\'' :: r =>
      let inside := r.takeWhile (· ≠ '\'')
      match r.drop inside.length with
      | '\'' :: rest =>
        if inside.isEmpty then none
        else some (String.ofList ('\'' :: inside ++ ['\'']), rest)
      | _ => none
    | _ => none

/-- Reads the name of a template, or what gives it, with parameters. -/
def readInclusion (n : Nat) : Reader Call := fun cs =>
  let head := match readTemplateName cs with
    | some (name, rest) => some (Param.path ⟨name, false, false, 0, [name]⟩, rest)
    | none => readHead n cs
  head.map fun (p, rest) => let (args, rest) := readArguments n rest; (callOf p args, rest)

/-! ## Tags -/

/-- The kinds of tags. -/
inductive Tag
  | expression (c : Call)
  | opening (c : Call) (names : List String)
  | otherwise
  | otherwiseCall (c : Call) (names : List String)
  | decorator (c : Call)
  | decoratorOpening (c : Call)
  | inclusion (c : Call)
  | inclusionOpening (c : Call)
  | closing (name : String)
  | comment

namespace Tag

/-- The call of a tag. -/
def call? : Tag → Option Call
  | expression c => some c
  | opening c _ => some c
  | otherwiseCall c _ => some c
  | decorator c => some c
  | decoratorOpening c => some c
  | inclusion c => some c
  | inclusionOpening c => some c
  | otherwise => none
  | closing _ => none
  | comment => none

end Tag

/-- A tag as it was read: its kind, whether it takes away the blanks before and after it, and the
rest of the text. -/
structure TagRead where
  tag : Tag
  trimBefore : Bool
  trimAfter : Bool
  rest : List Char

/-- The braces around most tags. -/
def doubleOpen : List Char := ['{', '{']

@[inherit_doc doubleOpen]
def doubleClose : List Char := ['}', '}']

/-- The braces around the tags of a block of raw text. -/
def quadOpen : List Char := ['{', '{', '{', '{']

@[inherit_doc quadOpen]
def quadClose : List Char := ['}', '}', '}', '}']

/-- Passes the end of a tag: whether it takes away the blanks after it, and the rest. -/
def finish (close cs : List Char) : Option (Bool × List Char) :=
  let (trimAfter, rest) := flag '~' (skip cs)
  (literally close (skip rest)).map fun rest => (trimAfter, rest)

/-- A tag with a part that one reader reads. -/
def tagOf {α : Type} (part : Reader α) (tag : α → Tag) (trim : Bool) (close cs : List Char) :
    Option TagRead := do
  let (a, rest) ← part (skip cs)
  let (trimAfter, rest) ← finish close rest
  return ⟨tag a, trim, trimAfter, rest⟩

/-- Reads a tag between triple braces, or between braces within braces. -/
def readTriple (n : Nat) (body : List Char) : Option TagRead :=
  let whole := do
    let inside ← literally ['{'] body
    let (trim, inside) := flag '~' (skip inside)
    tagOf (readCall n) .expression trim ['}', '}', '}'] inside
  let nested := do
    let (trim, inside) := flag '~' (skip body)
    let inside ← literally ['{'] (skip inside)
    let (c, rest) ← readCall n (skip inside)
    let rest ← literally ['}'] (skip rest)
    let (trimAfter, rest) ← finish doubleClose rest
    return ⟨.expression c, trim, trimAfter, rest⟩
  whole <|> nested

/-- Reads an `else`, or a caret, with or without a condition. -/
def readOtherwise (n : Nat) (trim : Bool) (cs : List Char) : Option TagRead :=
  match literally ['e', 'l', 's', 'e'] cs <|> literally ['^'] cs with
  | none => none
  | some rest =>
    match finish doubleClose rest with
    | some (trimAfter, rest) => some ⟨.otherwise, trim, trimAfter, rest⟩
    | none => tagOf (readBlockHead n) (fun (c, names) => .otherwiseCall c names) trim doubleClose rest

/-- Reads a tag after its opening braces; the number bounds the depth of its calls. -/
def readTagBody (n : Nat) (body : List Char) : Option TagRead :=
  let (trim, inside) := flag '~' (skip body)
  let start := skip inside
  match start with
  | '#' :: r =>
    match skip r with
    | '*' :: r => tagOf (readBlockHead n) (fun (c, _) => .decoratorOpening c) trim doubleClose r
    | '>' :: r => tagOf (readInclusion n) .inclusionOpening trim doubleClose r
    | r => tagOf (readBlockHead n) (fun (c, names) => .opening c names) trim doubleClose r
  | '/' :: r =>
    tagOf readName .closing trim doubleClose r <|>
      tagOf readTemplateName .closing trim doubleClose r
  | '>' :: r => tagOf (readInclusion n) .inclusion trim doubleClose r
  | '*' :: r => tagOf (readBlockHead n) (fun (c, _) => .decorator c) trim doubleClose r
  | '&' :: r =>
    tagOf (readHead n) (fun p => .expression (.mk p [] [])) trim doubleClose r
  | '{' :: _ => readTriple n body
  | _ =>
    match readOtherwise n trim start with
    | some t => some t
    | none => tagOf (readCall n) .expression trim doubleClose start

/-- Up to a mark, and past it. -/
def after? (mark : List Char) : List Char → Option (List Char)
  | [] => none
  | c :: r =>
    match literally mark (c :: r) with
    | some rest => some rest
    | none => after? mark r

/-- Reads a comment after its opening braces. -/
def readComment (body : List Char) : Option TagRead := do
  let inside ← literally ['!'] body
  let long := (literally ['-', '-'] (skip inside)).bind (after? ['-', '-', '}', '}'])
  return ⟨.comment, false, false, ← long <|> after? doubleClose inside⟩

/-- Reads a tag after its opening braces. -/
def readTag (cs : List Char) : Option TagRead :=
  match readTagBody (2 * cs.length + 8) cs with
  | some t => if t.tag.call?.all Call.isSound then some t else none
  | none => readComment cs

/-! ## Raw text -/

/-- Whether a tag starts here. -/
def startsTag : List Char → Bool
  | '{' :: '{' :: _ => true
  | _ => false

/-- Whether the first of several backslashes before a tag stands here. -/
def startsEscape (cs : List Char) : Bool :=
  let run := cs.takeWhile (· = '\\')
  1 < run.length && startsTag (cs.drop run.length)

/-- Up to the next braces of a raw block's tag that are not escaped: the text as written, and what
is meant. `escaped` tells that a backslash stands before. -/
def rawBody (escaped : Bool) : List Char → Option (List Char × List Char)
  | [] => none
  | '\\' :: '{' :: '{' :: r =>
    if escaped then
      (rawBody false ('{' :: '{' :: r)).map fun (s, t) => ('\\' :: s, '\\' :: t)
    else match r with
      | '{' :: '{' :: r =>
        (rawBody false r).map fun (s, t) => ('\\' :: quadOpen ++ s, quadOpen ++ t)
      | r => (rawBody false r).map fun (s, t) => ('\\' :: doubleOpen ++ s, doubleOpen ++ t)
  | c :: r =>
    if (literally quadOpen (c :: r)).isSome then some ([], [])
    else (rawBody (c = '\\') r).map fun (s, t) =>
      (c :: s, if !escaped && startsEscape (c :: r) then t else c :: t)

/-- A block of raw text: its call, the names it gives its values, the tags around it, and its text
as written and as meant. -/
structure RawRead where
  call : Call
  names : List String
  opening : TagRead
  closing : TagRead
  written : List Char
  meant : List Char

/-- Reads a block of raw text after its first two braces. Blanks before the text are passed. -/
def readRaw (cs : List Char) : Option RawRead := do
  let inside ← literally doubleOpen cs
  let (trim, inside) := flag '~' (skip inside)
  let ((c, names), rest) ← readBlockHead (2 * cs.length + 8) (skip inside)
  let (trimAfter, rest) ← finish quadClose rest
  let opening := TagRead.mk (.opening c names) trim trimAfter rest
  let (written, meant) ← rawBody false (skip rest)
  let close ← literally quadOpen ((skip rest).drop written.length)
  let (trim, close) := flag '~' (skip close)
  let close ← literally ['/'] (skip close)
  let (name, close) ← readName (skip close)
  let (trimAfter, close) ← finish quadClose close
  let closing := TagRead.mk (.closing name) trim trimAfter close
  if c.name? = some name && c.isSound then
    return ⟨c, names, opening, closing, (rest.take (rest.length - (skip rest).length)) ++ written,
      meant⟩
  else none

end SdkGen.Template
