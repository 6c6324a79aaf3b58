import SdkGen.Go.Mending.Piece

/-!
# Stacks that share their parts

Several readings of a text go on side by side. Each has a stack of pieces; stacks share what they
have in common, and a node of the stack may be reached in several ways.

* `StackNode`: a state, the place in the text, and the ways to it.
* `Stacks`: the nodes of all stacks.
* `Stacks.walk`: follows the ways down from a node.
-/

namespace SdkGen.Go

/-- A way down to an earlier node: over a piece, or over the start of an error. -/
structure Link where
  below : Nat
  piece : Option Piece
  deriving Inhabited

/-- A node of the stack. Without a state the text is in error there. -/
structure StackNode where
  state : Option Nat
  /-- The text from there on. -/
  rest : List Char
  bytes : Nat
  row : Nat
  links : List Link
  cost : Nat
  progress : Nat
  weight : Int
  deriving Inhabited

/-- The nodes of all stacks, each above the nodes it is linked to. -/
abbrev Stacks := Array StackNode

namespace Stacks

/-- The stack before a text. -/
def ofText (cs : List Char) : Stacks := #[⟨some 0, cs, 0, 0, [], 0, 0, 0⟩]

/-- Puts a piece, or the start of an error, on a node; gives the new node. -/
def push (s : Stacks) (below : Nat) (piece : Option Piece) (state : Option Nat) :
    Nat × Stacks :=
  let b := s[below]!
  let node := match piece with
    | none => { b with state := state, links := [⟨below, none⟩] }
    | some p =>
      ⟨state, b.rest.drop (p.before.chars + p.size.chars),
        b.bytes + p.before.bytes + p.size.bytes, b.row + p.before.rows + p.size.rows,
        [⟨below, some p⟩], b.cost + p.cost, b.progress + p.progress, b.weight + p.weight⟩
  (s.size, Array.push s node)

/-- Whether two links may stand for one another. -/
def sameLink (a b : Option Piece) : Bool :=
  match a, b with
  | some p, some q => p.equivalent q
  | none, none => true
  | _, _ => false

/-- Whether two nodes are at the same state, place and cost. -/
def sameNode (a b : StackNode) : Bool :=
  a.state = b.state && a.bytes = b.bytes && a.cost = b.cost

/-- At most so many links has a node. -/
def linkLimit : Nat := 8

/-- The weight of what a link goes over. -/
def linkWeight (l : Link) : Int := (l.piece.map Piece.weight).getD 0

/-- The position of the first link that may stand for a given one: from the same node, or from a
node that it can be joined with. -/
def matchingLink? (s : Stacks) (links : List Link) (l : Link) : Option Nat :=
  links.findIdx? fun e =>
    sameLink e.piece l.piece && (e.below = l.below || sameNode s[e.below]! s[l.below]!)

/-- Adds a link to a node, or joins it with one that the node has. -/
def addLink : Nat → Stacks → Nat → Link → Stacks
  | 0, s, _, _ => s
  | fuel + 1, s, node, l =>
    let n := s[node]!
    if l.below = node then s
    else match matchingLink? s n.links l with
      | some i =>
        let e := n.links[i]!
        if e.below = l.below then
          if linkWeight e < linkWeight l then
            s.set! node { n with
              links := n.links.set i ⟨e.below, l.piece⟩
              weight := s[l.below]!.weight + linkWeight l }
          else s
        else
          let s := s[l.below]!.links.foldl (fun s k => addLink fuel s e.below k) s
          let weight := s[l.below]!.weight + linkWeight l
          s.modify node fun n => { n with weight := max n.weight weight }
      | none =>
        if n.links.length = linkLimit then s
        else
          let b := s[l.below]!
          let progress := b.progress + (l.piece.map Piece.progress).getD 0
          s.set! node { n with
            links := n.links ++ [l]
            progress := max n.progress progress
            weight := max n.weight (b.weight + linkWeight l) }

/-! ## Walking down -/

/-- A way down from a node: where it has come to, the pieces it went over with the lowest one
first, and how many there are, apart from extra ones. -/
structure Path where
  node : Nat
  pieces : List Piece
  depth : Nat
  deriving Inhabited

/-- What to do with a path: take it, and end it. -/
structure Verdict where
  take : Bool
  stop : Bool

/-- The ways taken, by the nodes they lead to. -/
abbrev Taken := List (Nat × List (List Piece))

/-- Adds a way to those that lead to the same node. -/
def take (ts : Taken) (p : Path) : Taken :=
  if ts.any (·.1 = p.node) then
    ts.map fun t => if t.1 = p.node then (t.1, t.2 ++ [p.pieces]) else t
  else ts ++ [(p.node, [p.pieces])]

/-- The path that goes on over a link. -/
def Path.follow (p : Path) (l : Link) : Path :=
  match l.piece with
  | none => ⟨l.below, p.pieces, p.depth + 1⟩
  | some q => ⟨l.below, q :: p.pieces, p.depth + if q.extra then 0 else 1⟩

/-- At most so many paths are followed at once. -/
def pathLimit : Nat := 64

/-- One step down on each path. The first links come first, the further ones after all. -/
def stepDown {σ : Type} (s : Stacks) (visit : σ → Path → σ × Verdict) :
    List Path → List Path → List Path → σ → Taken → List Path × σ × Taken
  | [], kept, added, x, ts => (kept.reverse ++ added, x, ts)
  | p :: ps, kept, added, x, ts =>
    let (x, v) := visit x p
    let ts := if v.take then take ts p else ts
    match v.stop, s[p.node]!.links with
    | false, l :: ls =>
      let room := pathLimit - (kept.length + 1 + ps.length + added.length)
      stepDown s visit ps (p.follow l :: kept) (added ++ (ls.take room).map p.follow) x ts
    | _, _ => stepDown s visit ps kept added x ts

/-- Follows the ways down until all of them have ended. -/
def walkFrom {σ : Type} (s : Stacks) (visit : σ → Path → σ × Verdict) :
    Nat → List Path → σ → Taken → σ × Taken
  | 0, _, x, ts => (x, ts)
  | _, [], x, ts => (x, ts)
  | fuel + 1, ps, x, ts =>
    let (ps, x, ts) := stepDown s visit ps [] [] x ts
    walkFrom s visit fuel ps x ts

/-- Follows the ways down from a node. -/
def walk {σ : Type} (s : Stacks) (node : Nat) (start : σ) (visit : σ → Path → σ × Verdict) :
    σ × Taken :=
  walkFrom s visit (s.size + 1) [⟨node, [], 0⟩] start []

/-- The ways down over a number of pieces. -/
def pop (s : Stacks) (node depth : Nat) : Taken :=
  (s.walk node () fun _ p => ((), ⟨p.depth = depth, p.depth = depth⟩)).2

/-- The ways down to the bottom. -/
def popAll (s : Stacks) (node : Nat) : Taken :=
  (s.walk node () fun _ p => ((), ⟨s[p.node]!.links.isEmpty, false⟩)).2

end Stacks

end SdkGen.Go
