/-!
# Occurrences of a text in another

* `Occurrence.splitFirst`: the parts before and after the first occurrence.
* `Occurrence.dropPrefix`, `Occurrence.dropSuffix`: the rest after one end is taken off.
* `Occurrence.replace`: a text in place of every occurrence.
-/

namespace SdkGen.Occurrence

/-- The rest after a text at the start. -/
def dropPrefix : List Char → List Char → Option (List Char)
  | [], cs => some cs
  | _ :: _, [] => none
  | p :: ps, c :: cs => if p = c then dropPrefix ps cs else none

/-- The rest before a text at the end. -/
def dropSuffix (suffix cs : List Char) : Option (List Char) :=
  (dropPrefix suffix.reverse cs.reverse).map List.reverse

/-- The parts before and after the first occurrence of a text. -/
def splitFirst (sought : List Char) : List Char → Option (List Char × List Char)
  | [] => (dropPrefix sought []).map fun rest => ([], rest)
  | c :: cs =>
    match dropPrefix sought (c :: cs) with
    | some rest => some ([], rest)
    | none => (splitFirst sought cs).map fun (before, after) => (c :: before, after)

/-- Puts a text in place of every occurrence of another, from the left; the number counts the
characters of an occurrence that are still to be passed. -/
def replaceFrom (sought new : List Char) : Nat → List Char → List Char
  | _, [] => []
  | k + 1, _ :: r => replaceFrom sought new k r
  | 0, c :: r =>
    match dropPrefix sought (c :: r) with
    | some _ => new ++ replaceFrom sought new (sought.length - 1) r
    | none => c :: replaceFrom sought new 0 r

/-- Puts a text in place of every occurrence of another. -/
def replace (sought new cs : List Char) : List Char := replaceFrom sought new 0 cs

end SdkGen.Occurrence
