/-!
# Paths

A path is a text whose pieces stand between slashes. The pieces are kept as written, so that a
path shows as it was given: empty pieces and `.` stand for nothing, except at the start.

* `Path.pieces`: the pieces of a path.
* `Path.parent`: the path of the directory that holds it.
* `Path.ancestors`: a path and those above it.
-/

namespace SdkGen.Path

/-- Cuts at every slash. -/
def split : List Char → List (List Char)
  | [] => [[]]
  | c :: cs =>
    if c = '/' then [] :: split cs
    else match split cs with
      | [] => [[c]]
      | p :: ps => (c :: p) :: ps

/-- The pieces of a path; that of the empty path is empty, and so is the first of a path that
starts with a slash. -/
def pieces (path : String) : List String :=
  (split path.toList).map String.ofList

/-- Whether a piece leads nowhere else. -/
def isIdle (piece : String) : Bool := piece = "" || piece = "."

/-- Drops the idle pieces at the end, down to the first piece; the last piece comes first. -/
def trimmed : List String → List String
  | [] => []
  | [p] => [p]
  | p :: q :: rest => if isIdle p then trimmed (q :: rest) else p :: q :: rest

/-- The path of the pieces, of which the last comes first. -/
def ofReversed : List String → String
  | [] => ""
  | [""] => "/"
  | ps => "/".intercalate ps.reverse

/-- The pieces above a path, of which the last comes first; none above the empty path and the
root. -/
def above (reversed : List String) : Option (List String) :=
  match trimmed reversed with
  | [] => none
  | [""] => none
  | [_] => some []
  | _ :: rest => some (trimmed rest)

/-- The path of the directory that holds a path; none for the empty path and the root. -/
def parent (path : String) : Option String :=
  (above (pieces path).reverse).map ofReversed

/-- A path and those above it, up to the root or the first piece. -/
def ancestorsOf : Nat → List String → List String
  | 0, _ => []
  | fuel + 1, reversed =>
    match above reversed with
    | none => []
    | some [] => [ofReversed reversed]
    | some up => ofReversed reversed :: ancestorsOf fuel up

/-- A path and those above it, from the longest to the shortest; the root is left out. -/
def ancestors (path : String) : List String :=
  let reversed := (pieces path).reverse
  ancestorsOf reversed.length reversed

/-- Whether a path starts at the root. -/
def isAbsolute (path : String) : Bool := path.toList.head? = some '/'

end SdkGen.Path
