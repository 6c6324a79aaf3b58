import SdkGen.Toml.Value

/-!
# TOML documents

A header opens a table, to which the entries below it belong. `Document.parse` gives the table of
a whole document, or its first fault.
-/

namespace SdkGen.Toml

/-- A document that is being read: the tables that are closed, and the one that is open. -/
structure Document where
  root : Entries := []
  /-- The path, the last key and the kind of the open table; none for the document itself. -/
  opened : Option (List Key × Key × Header) := none
  current : Entries := []
  deriving Repr, Inhabited

namespace Document

/-- Puts the open table in its place. -/
def close (d : Document) : Except Fault Entries :=
  match d.opened with
  | none => .ok d.current
  | some (path, key, header) =>
    let table := Value.table d.current .header header.span
    d.root.modifyAt false false (fun _ es =>
      if header.isList then
        match Keyed.lookup key.text es with
        | none => .ok (Keyed.insert key.text (key.span, .array [table] true header.span) es)
        | some (place, .array items true span) =>
          .ok (Keyed.insert key.text
            (place, .array (items ++ [table]) true (span.through header.span)) es)
        | some _ => .error (duplicateKey key)
      else .ok (Keyed.insert key.text (key.span, table) es)) path .header

/-- What the table of a header holds already. Only a table that is implied by other headers may
be there. -/
def reopen (key : Key) (es : Entries) : Except Fault Entries :=
  match Keyed.lookup key.text es with
  | none => .ok []
  | some (_, .table inner .implied _) => .ok inner
  | some _ => .error (duplicateKey key)

/-- The entries at a path, where there is such a table. -/
def entriesAt : List Key → Entries → Entries
  | [], es => es
  | k :: path, es =>
    match Keyed.lookup k.text es with
    | some (_, .table inner _ _) => entriesAt path inner
    | some (_, .array items true _) =>
      match items.getLast? with
      | some (.table inner _ _) => entriesAt path inner
      | _ => []
    | _ => []

/-- Opens the table of a header. -/
def openTable (root : Entries) (header : Header) : Except Fault Document := do
  let (path, key) ← Key.ofParts header.path
  if header.isList then return ⟨root, some (path, key, header), []⟩
  let root ← root.modifyAt false false (fun _ es => .ok es) path .header
  let current ← reopen key (entriesAt path root)
  return ⟨root, some (path, key, header), current⟩

/-- Adds an expression to a document. -/
def add (d : Document) : Expression → Except Fault Document
  | .header header => do openTable (← d.close) header
  | .entry key value => do
    let (path, last) ← Key.ofParts key
    let v ← Value.ofSyntax value
    return { d with current := ← d.current.add false path last v }

/-- The table of a document. -/
def parse (text : String) : Except Fault Entries := do
  let d ← (← Expression.ofText text).foldlM add {}
  d.close

end Document

end SdkGen.Toml
