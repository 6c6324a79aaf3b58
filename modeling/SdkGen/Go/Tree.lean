import SdkGen.Go.Rule

/-!
# Syntax trees

A tree keeps every token as a leaf, in the order of the text, and groups them under nodes.

* `Tree`: leaves and nodes.
* `Tree.pos`: where the first token of a tree stands.
-/

namespace SdkGen.Go

/-- A token, or a node over the trees of its parts. -/
inductive Tree
  | leaf (text : String) (pos : Position)
  | node (kind : Kind) (pos : Position) (children : List Tree)
  deriving Repr

namespace Tree

/-- The place of the first token. -/
def pos : Tree → Position
  | .leaf _ p => p
  | .node _ p _ => p

/-- The node over some trees; no node stands over nothing. -/
def group (k : Kind) : List Tree → List Tree
  | [] => []
  | t :: ts => [.node k t.pos (t :: ts)]

/-- The node's kind; a leaf has none. -/
def kind? : Tree → Option Kind
  | .leaf _ _ => none
  | .node k _ _ => some k

end Tree

end SdkGen.Go
