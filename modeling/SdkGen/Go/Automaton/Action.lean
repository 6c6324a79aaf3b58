import SdkGen.Go.Automaton.State

/-!
# Actions

In a state each token has its actions: go on to another state, or end a production. Where both
are possible, ranks and sides decide between them; where they do not, all are kept, and the text
is read in several ways at once.

* `Action`: what to do with a token.
* `ActionState`: the actions of a state, and where its phrases lead.
-/

namespace SdkGen.Go

/-- What to do with a token in a state. -/
inductive Action
  /-- Go on to a state. A shift that only repeats a repetition is marked. -/
  | shift (state : Nat) (again : Bool)
  | reduce (production : Nat)
  | accept
  /-- Pass over a comment. -/
  | pass
  deriving DecidableEq, Repr, Inhabited

/-- The actions of a state by token, and the states to which phrases lead. -/
structure ActionState where
  actions : List (Nat × List Action)
  gotos : List (Nat × Nat)
  /-- The tokens that have an action. -/
  tokens : TokenSet
  deriving Inhabited

/-- The actions for one token, with the rank and the sides of the productions that end there. -/
structure Choice where
  actions : List Action
  rank : Int
  sides : List (Option Side)
  deriving Inhabited

namespace Choice

/-- No action. -/
def none : Choice := ⟨[], 0, []⟩

/-- Adds the end of a production; the highest rank wins. -/
def addEnd (c : Choice) (production : Nat) (rank : Int) (side : Option Side) : Choice :=
  if c.actions.isEmpty then ⟨[.reduce production], rank, [side]⟩
  else if c.rank < rank then ⟨[.reduce production], rank, [side]⟩
  else if c.rank = rank then ⟨c.actions ++ [.reduce production], rank, side :: c.sides⟩
  else c

end Choice

namespace Layout

/-- The step before a slot: the rank and the side in force where the slot is reached. -/
def inForce (l : Layout) (slot : Nat) : Int × Option Side :=
  match l.dot slot with
  | 0 => (0, none)
  | d + 1 =>
    match (l.production slot).steps[d]? with
    | some s => (s.rank, s.side)
    | none => (0, none)

/-- The slot at the end of a production. -/
def lastSlot (l : Layout) (production : Nat) : Nat :=
  l.slotOf[production]! + l.productions[production]!.steps.size

/-- The choices at the ends of a state's productions, by token. -/
def endChoices (l : Layout) (s : ItemState) : Array Choice :=
  s.done.foldl (fun cs (p, ahead) =>
    let (rank, side) := l.inForce (l.lastSlot p)
    (ahead.toList l.numbering.tokens.size).foldl (fun cs t =>
      cs.modify t fun c =>
        if p = l.whole then { c with actions := c.actions ++ [.accept] }
        else c.addEnd p rank side) cs) (Array.replicate l.numbering.tokens.size .none)

/-- The phrases for which going on with a token competes with an end, and the ranks in force for
going on. -/
def competitors (l : Layout) (s : ItemState) (token : Nat) : List Nat × List Int :=
  let going := s.kernel.toList.filter fun item =>
    l.dot item.slot ≠ 0 && (l.next? item.slot).any fun x => l.first[x.symbol]!.contains token
  let goingHeads := (going.map fun item => l.productionOf[item.slot]!).filter (· ≠ l.whole)
  let ended := (s.done.toList.filter fun (_, ahead) => ahead.contains token).map Prod.fst
  (((goingHeads ++ ended.filter (· ≠ l.whole)).map fun p => l.productions[p]!.head).eraseDups,
    going.map fun item => (l.inForce item.slot).1)

/-- Decides between going on with a token and the ends that it may follow. -/
def decideShift (l : Layout) (s : ItemState) (token next : Nat) (c : Choice) : List Action :=
  if c.actions.isEmpty || c.actions = [.accept] then c.actions ++ [.shift next false]
  else
    let (heads, ranks) := l.competitors s token
    let more := ranks.any (c.rank < ·)
    let less := ranks.any (· < c.rank)
    if heads.length = 1 && heads.all l.numbering.isRepeat then
      c.actions ++ [.shift next true]
    else if more && !less then [.shift next false]
    else if less && !more then c.actions
    else if more || less then c.actions ++ [.shift next false]
    else if c.sides.all (· = some .left) then c.actions
    else if c.sides.all (· = some .right) then [.shift next false]
    else c.actions ++ [.shift next false]

/-- The actions of a state. -/
def actionState (l : Layout) (s : ItemState) : ActionState :=
  let choices := s.moves.foldl (fun (cs : Array Choice) (symbol, next) =>
    if l.isPhrase symbol then cs
    else cs.modify symbol fun c => { c with actions := l.decideShift s symbol next c })
    (l.endChoices s)
  let choices := choices.modify (l.numbering.ofToken .comment) fun c =>
    { c with actions := c.actions ++ [.pass] }
  let used := (List.range choices.size).filter fun t => !choices[t]!.actions.isEmpty
  ⟨used.map fun t => (t, choices[t]!.actions),
    s.moves.toList.filter fun (symbol, _) => l.isPhrase symbol, .ofList used⟩

end Layout

end SdkGen.Go
