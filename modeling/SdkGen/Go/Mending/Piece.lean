import SdkGen.Go.Automaton.Machine

/-!
# Pieces of a mended text

A piece covers a part of the text: a token, a phrase over its parts, or a part that was passed
over. Passing over text and supplying a missing token have a cost.

* `Extent`: how long a part of the text is.
* `Piece`: a piece, with what is said about its parts.
* `Piece.ofParts`: a piece over parts.
-/

namespace SdkGen.Go

/-- How long a part of a text is. -/
structure Extent where
  chars : Nat
  bytes : Nat
  rows : Nat
  deriving DecidableEq, Repr, Inhabited

namespace Extent

/-- Nothing. -/
def zero : Extent := ⟨0, 0, 0⟩

/-- One part after the other. -/
def add (a b : Extent) : Extent := ⟨a.chars + b.chars, a.bytes + b.bytes, a.rows + b.rows⟩

/-- The extent of some characters. -/
def ofChars (cs : List Char) : Extent :=
  cs.foldl (fun e c => ⟨e.chars + 1, e.bytes + c.utf8Size, e.rows + if c = '\n' then 1 else 0⟩)
    zero

end Extent

/-- What a piece stands for. -/
inductive Label
  | symbol (number : Nat)
  /-- A part that is passed over, or a stray character. -/
  | error
  /-- A part that is passed over, as long as it may still grow. -/
  | skipped
  deriving DecidableEq, Repr, Inhabited

/-- A piece of a text and its parts. -/
structure Piece where
  label : Label
  /-- What stands before the first token. -/
  before : Extent
  size : Extent
  /-- A comment, or a part passed over within a phrase. -/
  extra : Bool
  missing : Bool
  /-- A word that was read as a reserved one, or could have been. -/
  reserved : Bool
  /-- Whether the piece makes a node of its own. -/
  shown : Bool
  cost : Nat
  /-- How many nodes there are below the piece. -/
  shownBelow : Nat
  /-- How many nodes stand directly below the piece. -/
  shownParts : Nat
  weight : Int
  production : Option Nat
  parts : List Piece
  deriving Inhabited

namespace Piece

/-- The cost of a missing token. -/
def missingCost : Nat := 610

/-- The cost of passing over a part of the text, besides what the part holds. -/
def passingCost : Nat := 500

/-- The cost of each node passed over. -/
def nodeCost : Nat := 100

/-- The cost of each row passed over. -/
def rowCost : Nat := 30

/-- A token. -/
def ofToken (m : Machine) (token : Nat) (before size : Extent) (reserved : Bool) : Piece :=
  ⟨.symbol token, before, size, token = 0, false, reserved, m.numbering.isShown token, 0, 0, 0, 0,
    none, []⟩

/-- A token that is not there. -/
def supplied (m : Machine) (token : Nat) : Piece :=
  { ofToken m token .zero .zero false with missing := true, cost := missingCost }

/-- Stray characters. -/
def stray (before size : Extent) : Piece :=
  ⟨.error, before, size, false, false, false, true, 0, 0, 0, 0, none, []⟩

/-- Whether a piece is passed over. -/
def isPassed (l : Label) : Bool := l = .error || l = .skipped

/-- Adds what a part contributes to the account of the whole. -/
def addPart (passed : Bool) (whole part : Piece) (renamed : Bool) : Piece :=
  let nodes :=
    if passed && !part.extra && !(part.label = .error && part.parts.isEmpty) then
      if part.shown then 1 else if part.parts.isEmpty then 0 else part.shownParts
    else 0
  let own := if part.label = .skipped then 0 else part.cost
  let single := renamed || part.shown
  { whole with
    cost := whole.cost + own + nodeCost * nodes
    weight := whole.weight + part.weight
    shownBelow := whole.shownBelow + part.shownBelow + if single then 1 else 0
    shownParts := whole.shownParts +
      if single then 1 else if part.parts.isEmpty then 0 else part.shownParts }

/-- Joins the account of the parts, of which those that are not extra follow the steps. -/
def addParts (passed : Bool) : Piece → List Step → List Piece → Piece
  | whole, _, [] => whole
  | whole, steps, p :: ps =>
    if p.extra then addParts passed (addPart passed whole p false) steps ps
    else
      let renamed := steps.head?.any (·.renamed.isSome)
      addParts passed (addPart passed whole p renamed) steps.tail ps

/-- How long some pieces are, from the first token on. -/
def extentOf : List Piece → Extent
  | [] => .zero
  | p :: ps => ps.foldl (fun e q => (e.add q.before).add q.size) p.size

/-- A piece over parts. -/
def ofParts (label : Label) (shown : Bool) (steps : List Step) (production : Option Nat)
    (parts : List Piece) : Piece :=
  let size := extentOf parts
  let before := (parts.head?.map Piece.before).getD .zero
  let passed := isPassed label
  let whole := addParts passed
    ⟨label, before, size, false, false, false, shown, 0, 0, 0, 0, production, parts⟩ steps parts
  if passed then
    { whole with cost := whole.cost + passingCost + size.bytes + rowCost * size.rows }
  else whole

/-- A phrase over the steps of a production. -/
def ofProduction (m : Machine) (production : Nat) (parts : List Piece) : Piece :=
  let p := m.productions[production]!
  ofParts (.symbol p.head) (m.numbering.isShown p.head) p.steps.toList (some production) parts

/-- A part that is passed over. -/
def passed (parts : List Piece) : Piece := ofParts .error true [] none parts

/-- A part that is passed over and may still grow. -/
def growing (parts : List Piece) : Piece := ofParts .skipped false [] none parts

/-- How much reading a piece counts for. -/
def progress (p : Piece) : Nat :=
  p.shownBelow + (if p.shown then 1 else 0) + if p.label = .skipped then 1 else 0

/-- Whether two pieces may stand for one another. -/
def equivalent (a b : Piece) : Bool :=
  a.label = b.label &&
    ((0 < a.cost && 0 < b.cost) ||
      (a.before.bytes = b.before.bytes && a.size.bytes = b.size.bytes &&
        a.parts.length = b.parts.length && a.extra = b.extra))

/-- The parts without the extra ones at their end, and those. -/
def splitExtras (parts : List Piece) : List Piece × List Piece :=
  let trailing := parts.reverse.takeWhile Piece.extra
  (parts.take (parts.length - trailing.length), trailing.reverse)

/-- A number by which labels are ordered. -/
def labelOrder (p : Piece) : Int :=
  match p.label with
  | .symbol n => n
  | _ => -1

mutual

/-- Compares two pieces by their labels, in the order of the text. -/
def order : Nat → Piece → Piece → Ordering
  | 0, _, _ => .eq
  | fuel + 1, a, b =>
    ((compare a.labelOrder b.labelOrder).then (compare a.parts.length b.parts.length)).then
      (orderAll fuel a.parts b.parts)

/-- Compares the parts of two pieces, one after the other. -/
def orderAll : Nat → List Piece → List Piece → Ordering
  | fuel, a :: as, b :: bs => (order fuel a b).then (orderAll fuel as bs)
  | _, _, _ => .eq

end

/-- Whether the second of two readings of the same text is kept. -/
def prefersSecond (a b : Piece) : Bool :=
  if b.cost < a.cost then true
  else if a.cost < b.cost then false
  else if a.weight < b.weight then true
  else if b.weight < a.weight then false
  else if 0 < a.cost then true
  else order (a.size.bytes + 10000) a b == .gt

end Piece

end SdkGen.Go
