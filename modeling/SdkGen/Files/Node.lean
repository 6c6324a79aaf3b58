/-!
# Trees of files

A node is a file or a directory. The children of a directory are reached by their names, and
deeper nodes by a list of names, their place.

* `Node.get?`: the node at a place.
* `Node.put`: replaces the node at a place, or adds it to its directory.
* `Node.files`: every file with its place.
-/

namespace SdkGen

/-- A file with its bytes, or a directory with its named children. -/
inductive Node
  | file (bytes : ByteArray)
  | directory (children : List (String × Node))

namespace Node

/-- A directory without children. -/
def emptyDirectory : Node := directory []

/-- Whether the node is a directory. -/
def isDirectory : Node → Bool
  | file _ => false
  | directory _ => true

/-- The child of that name. -/
def child? (name : String) : List (String × Node) → Option Node
  | [] => none
  | (n, v) :: rest => if n = name then some v else child? name rest

/-- The children with one of them replaced, or added at the end. -/
def setChild (name : String) (v : Node) : List (String × Node) → List (String × Node)
  | [] => [(name, v)]
  | (n, w) :: rest => if n = name then (n, v) :: rest else (n, w) :: setChild name v rest

/-- The node at a place. -/
def get? : Node → List String → Option Node
  | v, [] => some v
  | file _, _ :: _ => none
  | directory children, name :: place =>
    match child? name children with
    | some v => v.get? place
    | none => none

/-- Puts a node at a place. Where the way to it does not exist, nothing changes. -/
def put (v : Node) : Node → List String → Node
  | _, [] => v
  | file bytes, _ :: _ => file bytes
  | directory children, [name] => directory (setChild name v children)
  | directory children, name :: next :: place =>
    match child? name children with
    | some w => directory (setChild name (put v w (next :: place)) children)
    | none => directory children

mutual

/-- Every file below a node with its place. -/
def files (place : List String) : Node → List (List String × ByteArray)
  | file bytes => [(place, bytes)]
  | directory children => childFiles place children

/-- Every file below some children. -/
def childFiles (place : List String) : List (String × Node) → List (List String × ByteArray)
  | [] => []
  | (name, v) :: rest => v.files (place ++ [name]) ++ childFiles place rest

end

end Node

end SdkGen
