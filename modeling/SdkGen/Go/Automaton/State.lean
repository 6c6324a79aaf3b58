import Std.Data.HashMap
import SdkGen.Go.Automaton.Production
import SdkGen.Go.Automaton.TokenSet

/-!
# States of the automaton

A state is a set of items: productions that are read up to some step, each with the tokens that
may follow it. Reading a symbol in a state leads to the state of the items that go on with it.

* `Layout`: what the states are computed from.
* `ItemState`: the items of a state, where its symbols lead, and the productions it ends.
* `itemStates`: all states, the first one before any text.
-/

namespace SdkGen.Go

/-- A production read up to a step, and the tokens that may follow it. A slot numbers the step:
the slots of a production follow one another. -/
structure Item where
  slot : Nat
  ahead : TokenSet
  deriving DecidableEq, Hashable, Repr, Inhabited

/-- A phrase that a state is about to read because another one starts with it: the tokens that may
follow it there, and whether those that follow the other one may as well. -/
structure Opening where
  phrase : Nat
  ahead : TokenSet
  inherits : Bool
  deriving DecidableEq, Repr, Inhabited

/-- What the states are computed from. -/
structure Layout where
  numbering : Numbering
  /-- The productions; the last one stands for a whole text. -/
  productions : Array Production
  /-- The first slot of each production. -/
  slotOf : Array Nat
  /-- The production of each slot. -/
  productionOf : Array Nat
  /-- The productions of each symbol. -/
  byHead : Array (Array Nat)
  /-- The tokens with which each symbol may start. -/
  first : Array TokenSet
  /-- The phrases with which each symbol may start. -/
  openings : Array (Array Opening)
  deriving Inhabited

namespace Layout

/-- The number of steps read at a slot. -/
def dot (l : Layout) (slot : Nat) : Nat := slot - l.slotOf[l.productionOf[slot]!]!

/-- The production of a slot. -/
def production (l : Layout) (slot : Nat) : Production := l.productions[l.productionOf[slot]!]!

/-- The step to be read next at a slot. -/
def next? (l : Layout) (slot : Nat) : Option Step := (l.production slot).steps[l.dot slot]?

/-- Whether a symbol is a phrase. -/
def isPhrase (l : Layout) (symbol : Nat) : Bool := l.numbering.tokens.size ≤ symbol

/-- The production that stands for a whole text. -/
def whole (l : Layout) : Nat := l.productions.size - 1

end Layout

/-- Adds the tokens with which the heads of productions start, one round. -/
def growFirst (ps : Array Production) (first : Array TokenSet) : Array TokenSet :=
  ps.foldl (fun first p =>
    match p.steps[0]? with
    | some s => first.modify p.head fun f => f.union first[s.symbol]!
    | none => first) first

/-- The tokens with which each symbol may start. -/
def firstTokens (n : Numbering) (ps : Array Production) : Array TokenSet :=
  let start := ((List.range n.size).map fun i =>
    if i < n.tokens.size then TokenSet.single i else .empty).toArray
  n.phrases.foldl (fun first _ => growFirst ps first) start

/-- Joins an opening to others. -/
def Opening.joinTo (os : Array Opening) (o : Opening) : Array Opening :=
  match os.findIdx? (·.phrase == o.phrase) with
  | some i => os.modify i fun x => ⟨x.phrase, x.ahead.union o.ahead, x.inherits || o.inherits⟩
  | none => os.push o

/-- The phrases with which the productions of a phrase start. -/
def directOpenings (n : Numbering) (first : Array TokenSet) (ps : List Production) :
    Array Opening :=
  ps.foldl (fun os p =>
    match p.steps[0]? with
    | some s =>
      if s.symbol < n.tokens.size then os
      else match p.steps[1]? with
        | some t => Opening.joinTo os ⟨s.symbol, first[t.symbol]!, false⟩
        | none => Opening.joinTo os ⟨s.symbol, .empty, true⟩
    | none => os) #[]

/-- Adds the openings of openings, as long as there are new ones. -/
def closeOpenings (direct : Array (Array Opening)) : Nat → Array Opening → Array Opening
  | 0, os => os
  | fuel + 1, os =>
    let grown := os.foldl (fun acc o =>
      direct[o.phrase]!.foldl (fun acc d =>
        let ahead := if d.inherits then d.ahead.union o.ahead else d.ahead
        Opening.joinTo acc ⟨d.phrase, ahead, d.inherits && o.inherits⟩) acc) os
    if grown == os then os else closeOpenings direct fuel grown

/-- The layout of Go. -/
def Layout.ofGo : Layout :=
  let n := Numbering.ofGo
  let own := allProductions n
  let ps := own.push ⟨n.size, #[⟨n.tokens.size, 0, none, none⟩], 0⟩
  let slotOf := (ps.foldl (fun (acc, at_) p => (acc.push at_, at_ + p.steps.size + 1)) (#[], 0)).1
  let productionOf := ((List.range ps.size).flatMap fun i =>
    List.replicate (ps[i]!.steps.size + 1) i).toArray
  let heads := (List.range ps.size).foldl
    (fun (acc : Array (Array Nat)) i => acc.modify ps[i]!.head (·.push i))
    (Array.replicate (n.size + 1) #[])
  let first := firstTokens n own
  let direct := heads.map fun is => directOpenings n first (is.toList.map fun i => ps[i]!)
  ⟨n, ps, slotOf, productionOf, heads, first, direct.map (closeOpenings direct n.size)⟩

/-- The items of a state, where its symbols lead, and the productions it ends. -/
structure ItemState where
  kernel : Array Item
  moves : Array (Nat × Nat)
  done : Array (Nat × TokenSet)
  deriving Inhabited

namespace Layout

/-- The phrases that a state is about to read, with the tokens that may follow them. -/
def closure (l : Layout) (kernel : Array Item) : Array (Option TokenSet) :=
  let add (acc : Array (Option TokenSet)) (phrase : Nat) (ahead : TokenSet) :=
    acc.modify (phrase - l.numbering.tokens.size) fun o => some ((o.getD .empty).union ahead)
  kernel.foldl (fun acc item =>
    match l.next? item.slot with
    | none => acc
    | some s =>
      if l.isPhrase s.symbol then
        let ahead := match l.next? (item.slot + 1) with
          | some t => l.first[t.symbol]!
          | none => item.ahead
        l.openings[s.symbol]!.foldl (fun acc o =>
            add acc o.phrase (if o.inherits then o.ahead.union ahead else o.ahead))
          (add acc s.symbol ahead)
      else acc) (Array.replicate l.numbering.phrases.size none)

/-- The kernels to which the symbols of a state lead, and the productions it ends. -/
def successors (l : Layout) (kernel : Array Item) :
    Array (Array Item) × Array (Nat × TokenSet) :=
  let none' : Array (Array Item) × Array (Nat × TokenSet) :=
    (Array.replicate l.numbering.size #[], #[])
  let own := kernel.foldl (fun (next, done) item =>
    match l.next? item.slot with
    | some s => (next.modify s.symbol (·.push ⟨item.slot + 1, item.ahead⟩), done)
    | none => (next, done.push (l.productionOf[item.slot]!, item.ahead))) none'
  let opened := l.closure kernel
  (List.range opened.size).foldl (fun acc i =>
    match opened[i]! with
    | none => acc
    | some ahead =>
      l.byHead[l.numbering.tokens.size + i]!.foldl (fun (next, done) p =>
        match l.productions[p]!.steps[0]? with
        | some s => (next.modify s.symbol (·.push ⟨l.slotOf[p]! + 1, ahead⟩), done)
        | none => (next, done.push (p, ahead))) acc) own

end Layout

/-- The states found so far, and their numbers by kernel. -/
structure StateTable where
  states : Array ItemState
  numbers : Std.HashMap (Array Item) Nat

namespace StateTable

/-- The number of the state of a kernel, which is added if it is new. -/
def number (t : StateTable) (kernel : Array Item) : Nat × StateTable :=
  match t.numbers[kernel]? with
  | some i => (i, t)
  | none =>
    let i := t.states.size
    (i, ⟨t.states.push ⟨kernel, #[], #[]⟩, t.numbers.insert kernel i⟩)

/-- Finds where the symbols of a state lead. -/
def expand (l : Layout) (t : StateTable) (i : Nat) : StateTable :=
  let (next, done) := l.successors t.states[i]!.kernel
  let (moves, t) := (List.range next.size).foldl (fun (moves, (t : StateTable)) symbol =>
    let kernel := next[symbol]!
    if kernel.isEmpty then (moves, t)
    else
      let (j, t) := t.number kernel
      (moves.push (symbol, j), t)) (#[], t)
  ⟨t.states.modify i fun s => ⟨s.kernel, moves, done⟩, t.numbers⟩

/-- Expands the states from one on, as long as there are any. -/
def expandFrom (l : Layout) : Nat → Nat → StateTable → StateTable
  | 0, _, t => t
  | fuel + 1, i, t => if i < t.states.size then expandFrom l fuel (i + 1) (t.expand l i) else t

end StateTable

/-- A bound on the number of states. -/
def stateBound : Nat := 100000

/-- All states; the first one stands before any text. -/
def itemStates (l : Layout) : Array ItemState :=
  let start : Item := ⟨l.slotOf[l.whole]!, .single 0⟩
  let (_, t) := StateTable.number ⟨#[], {}⟩ #[start]
  (t.expandFrom l stateBound 0).states

end SdkGen.Go
