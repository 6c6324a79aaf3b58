/-!
# Lists in the order of their keys

A list of pairs stands for a finite map. `Keyed.insert` keeps the keys in increasing order of
their characters.
-/

namespace SdkGen.Keyed

variable {α : Type}

/-- Puts a value under a key, in place of any that was there. -/
def insert (key : String) (v : α) : List (String × α) → List (String × α)
  | [] => [(key, v)]
  | (k, w) :: r =>
    if key = k then (key, v) :: r
    else if key < k then (key, v) :: (k, w) :: r
    else (k, w) :: insert key v r

/-- The value under a key. -/
def lookup (key : String) : List (String × α) → Option α
  | [] => none
  | (k, v) :: r => if k = key then some v else lookup key r

/-- The pairs in the order of their keys; of two with one key the later counts. -/
def ofList (pairs : List (String × α)) : List (String × α) :=
  pairs.foldl (fun acc p => insert p.1 p.2 acc) []

end SdkGen.Keyed
