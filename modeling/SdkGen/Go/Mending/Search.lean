import SdkGen.Go.Mending.Scan
import SdkGen.Go.Mending.Stack

/-!
# Readings side by side

* `Reading`: one reading of the text, by the top of its stack.
* `Search`: all readings that are followed, the best one first.
* `Search.standing`, `compare`: what a reading has cost so far, and which of two is followed.
* `Search.merge`: joins two readings that have come to the same place.
* `Search.reduce`: ends a production.
-/

namespace SdkGen.Go

/-- What is done with a reading. -/
inductive Status
  | active
  /-- The next token cannot follow. -/
  | paused (next : Piece)
  | halted
  deriving Inhabited

/-- A place on the stack where a reading in error may go on. -/
structure Retreat where
  bytes : Nat
  row : Nat
  depth : Nat
  state : Option Nat
  deriving Inhabited

/-- One reading of the text. -/
structure Reading where
  node : Nat
  status : Status
  /-- The progress at the last error. -/
  atError : Nat
  retreats : List Retreat
  deriving Inhabited

/-- All readings that are followed. -/
structure Search where
  machine : Machine
  shared : Stacks
  readings : Array Reading
  finished : Option Piece
  /-- How many readings have come to the end. -/
  accepted : Nat

/-- At most so many readings are followed for long. -/
def readingLimit : Nat := 6

/-- So many more readings may arise at a place. -/
def overflowLimit : Nat := 4

/-- What a reading has cost so far. -/
structure Standing where
  cost : Nat
  progress : Nat
  weight : Int
  inError : Bool

/-- Which of two readings is followed; *clear* when the other one is given up. -/
inductive Preference
  | left (clear : Bool)
  | right (clear : Bool)
  | neither
  deriving DecidableEq

/-- A difference in cost that gives a reading up; progress since the error makes it greater. -/
def costLimit : Nat := 1800

/-- Compares two readings. -/
def Standing.compare (a b : Standing) : Preference :=
  if !a.inError && b.inError then .left (a.cost < b.cost)
  else if a.inError && !b.inError then .right (b.cost < a.cost)
  else if a.cost < b.cost then .left (costLimit < (b.cost - a.cost) * (1 + a.progress))
  else if b.cost < a.cost then .right (costLimit < (a.cost - b.cost) * (1 + b.progress))
  else if b.weight < a.weight then .left false
  else if a.weight < b.weight then .right false
  else .neither

namespace Search

/-- The reading of a number. -/
def reading (s : Search) (v : Nat) : Reading := s.readings[v]!

/-- The top of a reading's stack. -/
def top (s : Search) (v : Nat) : StackNode := s.shared[(s.reading v).node]!

/-- Changes a reading. -/
def modify (s : Search) (v : Nat) (f : Reading → Reading) : Search :=
  { s with readings := s.readings.modify v f }

/-- Gives up a reading. -/
def remove (s : Search) (v : Nat) : Search :=
  { s with readings := s.readings.eraseIdxIfInBounds v }

/-- Adds a reading that branches off from another one at a node of the stack; gives its number. -/
def branch (s : Search) (from_ node : Nat) : Nat × Search :=
  (s.readings.size,
    { s with readings := s.readings.push ⟨node, .active, (s.reading from_).atError, []⟩ })

/-- Puts a reading in the place of another one. -/
def replace (s : Search) (by_ v : Nat) : Search :=
  if by_ = v then s
  else
    let r := s.reading by_
    let r := if r.retreats.isEmpty then { r with retreats := (s.reading v).retreats } else r
    (s.modify v fun _ => r).remove by_

/-- Whether a reading is followed at the moment. -/
def isActive (s : Search) (v : Nat) : Bool :=
  match (s.reading v).status with
  | .active => true
  | _ => false

/-- Puts a piece, or the start of an error, on a reading's stack. -/
def push (s : Search) (v : Nat) (piece : Option Piece) (state : Option Nat) : Search :=
  let (node, shared) := s.shared.push (s.reading v).node piece state
  { s with shared := shared }.modify v fun r =>
    { r with
      node := node
      atError := if piece.isSome then r.atError else shared[node]!.progress }

/-- What a reading has cost; an error that has just started has its cost too. -/
def cost (s : Search) (v : Nat) : Nat :=
  let n := s.top v
  let starting := n.state.isNone && n.links.head?.any (·.piece.isNone)
  match (s.reading v).status with
  | .paused _ => n.cost + Piece.passingCost
  | _ => n.cost + if starting then Piece.passingCost else 0

/-- The progress at the last error is at most the progress. -/
def settle (s : Search) (v : Nat) : Search :=
  let p := (s.top v).progress
  s.modify v fun r => { r with atError := min r.atError p }

/-- The progress since the last error. -/
def progress (s : Search) (v : Nat) : Nat := (s.top v).progress - (s.reading v).atError

/-- What a reading has cost so far. -/
def standing (s : Search) (v : Nat) : Standing :=
  let n := s.top v
  match (s.reading v).status with
  | .paused _ => ⟨s.cost v + Piece.nodeCost, s.progress v, n.weight, true⟩
  | _ => ⟨s.cost v, s.progress v, n.weight, n.state.isNone⟩

/-- Whether two readings have come to the same place. -/
def canMerge (s : Search) (v w : Nat) : Bool :=
  s.isActive v && s.isActive w && Stacks.sameNode (s.top v) (s.top w)

/-- Joins the second reading to the first one, if they have come to the same place. -/
def merge? (s : Search) (v w : Nat) : Option Search :=
  if s.canMerge v w then
    let node := (s.reading v).node
    let shared := (s.top w).links.foldl (fun st l => Stacks.addLink st.size st node l) s.shared
    let s := { s with shared := shared }
    let s := if (s.top v).state.isNone then
        s.modify v fun r => { r with atError := shared[node]!.progress }
      else s
    some (s.remove w)
  else none

/-- Joins a reading to the first of some others that has come to the same place. -/
def mergeInto? (s : Search) (v : Nat) : List Nat → Option Search
  | [] => none
  | w :: ws => (s.merge? w v).orElse fun _ => mergeInto? s v ws

/-- The actions for a token in a state. -/
def actions (s : Search) (state token : Nat) : List Action :=
  (s.machine.actions[state]!)[token]!

/-- The phrase over some parts; of several readings of the parts the preferred one is kept. Extra
pieces at the end stay outside. -/
def phrase (s : Search) (production : Nat) : List (List Piece) → Piece × List Piece
  | [] => (default, [])
  | ps :: rest =>
    let build (parts : List Piece) : Piece × List Piece :=
      let (own, extras) := Piece.splitExtras parts
      (.ofProduction s.machine production own, extras)
    rest.foldl (fun best parts =>
      let other := build parts
      if best.1.prefersSecond other.1 then other else best) (build ps)

/-- Ends a production along the ways to one node; the reading that arises joins an earlier one
that has come to the same place. -/
def reduceTo (v production halted : Nat) (s : Search) (way : Nat × List (List Piece)) : Search :=
  let w := s.readings.size
  if readingLimit + overflowLimit + halted < w then s
  else
    let p := s.machine.productions[production]!
    let (piece, extras) := s.phrase production way.2
    let piece := { piece with weight := piece.weight + p.weight }
    match s.shared[way.1]!.state with
    | none => s
    | some state =>
      let next := (s.machine.gotos[state]!)[p.head]!
      let (w, s) := s.branch v way.1
      let s := s.push w (some piece) (some next)
      let s := extras.foldl (fun s x => s.push w (some x) (some next)) s
      ((s.mergeInto? w ((List.range w).filter (· ≠ v))).getD s)

/-- Ends a production in a reading. The readings that arise are added; gives the first of them,
if there are any. -/
def reduce (s : Search) (v production : Nat) : Option Nat × Search :=
  let first := s.readings.size
  let ways := s.shared.pop (s.reading v).node s.machine.productions[production]!.steps.size
  let halted := s.readings.foldl (fun n r =>
    match r.status with
    | .halted => n + 1
    | _ => n) 0
  let s := ways.foldl (reduceTo v production halted) s
  (if first < s.readings.size then some first else none, s)

end Search

end SdkGen.Go
