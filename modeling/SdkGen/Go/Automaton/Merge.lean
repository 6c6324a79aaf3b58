import SdkGen.Go.Automaton.Action

/-!
# Merging of states

States with the same items, apart from what may follow them, are merged where that changes no
action: for every token they have the same actions or only one of them has any, and no token of
one is mistaken for a token of the other.

* `Token.isExtended`, `Token.clashes`: tokens that may be mistaken for one another.
* `mergeStates`: the states after merging.
-/

namespace SdkGen.Go

namespace Token

/-- Whether an operand may start with a character, before any letter or digit. -/
def startsOperand (c : Char) : Bool := "+-!^*&<".toList.contains c

/-- What a mark has after another one with which it starts. -/
def markTail (a b : String) : List Char :=
  if b.toList.isPrefixOf a.toList then a.toList.drop b.length else []

/-- Whether a lexeme of the second class may go on to a longer one of the first class. -/
def isExtended : Token → Token → Bool
  | .content, _ => true
  | .comment, .mark m => m == "/"
  | .floating, .mark m => m == "."
  | .imaginary, .mark m => m == "."
  | .floating, .integer => true
  | .imaginary, .integer => true
  | .imaginary, .floating => true
  | .mark a, .mark b => !(markTail a b).isEmpty
  | _, _ => false

/-- Whether a token of the first class may be mistaken for a blank or for quoted text. -/
def isHidden : Token → Token → Bool
  | .content, .content => false
  | .content, _ => true
  | .closingQuote, .openingQuote => true
  | .lineEnd, .lineEnd => false
  | .lineEnd, .endOfText => false
  | .lineEnd, _ => true
  | _, _ => false

/-- Whether a text may be read as one token of the first class, or as one of the second class and
the start of another token. -/
def clashes : Token → Token → Bool
  | .comment, .mark m => m == "/"
  | .floating, .integer => true
  | .imaginary, .integer => true
  | .mark a, .mark b => (markTail a b).head?.any startsOperand
  | a, b => isHidden a b

end Token

namespace Numbering

/-- The tokens for which a relation holds, by token. -/
def relation (n : Numbering) (r : Token → Token → Bool) : Array TokenSet :=
  n.tokens.map fun a =>
    .ofList ((List.range n.tokens.size).filter fun j => r a n.tokens[j]!)

/-- The reserved words. -/
def reservedWords (n : Numbering) : TokenSet :=
  .ofList ((List.range n.tokens.size).filter fun j =>
    match n.tokens[j]! with
    | .reserved _ => true
    | _ => false)

end Numbering

/-- What merging is decided by. -/
structure Merging where
  states : Array ActionState
  /-- The tokens with which each token clashes. -/
  clashing : Array TokenSet
  reserved : TokenSet
  word : Nat

namespace Merging

/-- Whether a token is mistaken for one of some tokens. Words and reserved words are told apart.
The end of the text is kept apart from all tokens. -/
def isMistaken (m : Merging) (others : TokenSet) (token : Nat) : Bool :=
  if token = 0 then true
  else
    let known :=
      if token = m.word then others.diff m.reserved
      else if m.reserved.contains token then others.diff (.single m.word)
      else others
    m.clashing[token]!.meets known

/-- Whether two actions are the same up to the groups of the states they lead to. -/
def sameAction (groupOf : Array Nat) : Action → Action → Bool
  | .shift s again, .shift t again' => groupOf[s]! = groupOf[t]! && again = again'
  | a, b => a = b

/-- Whether two lists of actions are the same up to groups. -/
def sameActions (groupOf : Array Nat) : List Action → List Action → Bool
  | [], [] => true
  | a :: as, b :: bs => sameAction groupOf a b && sameActions groupOf as bs
  | _, _ => false

/-- Whether two sorted association lists agree on the keys they share, and what only one has is
harmless. -/
def agree {α : Type} (both : α → α → Bool) (left right : Nat → Bool) :
    Nat → List (Nat × α) → List (Nat × α) → Bool
  | _, [], bs => bs.all fun b => right b.1
  | _, as, [] => as.all fun a => left a.1
  | 0, _, _ => true
  | fuel + 1, (i, a) :: as, (j, b) :: bs =>
    if i = j then both a b && agree both left right fuel as bs
    else if i < j then left i && agree both left right fuel as ((j, b) :: bs)
    else right j && agree both left right fuel ((i, a) :: as) bs

/-- Whether the actions of two states keep them apart. -/
def differ (m : Merging) (groupOf : Array Nat) (i j : Nat) : Bool :=
  let a := m.states[i]!
  let b := m.states[j]!
  !agree (sameActions groupOf) (fun t => !m.isMistaken b.tokens t)
    (fun t => !m.isMistaken a.tokens t) (a.actions.length + b.actions.length)
    a.actions b.actions

/-- Whether two lists of actions end with shifts to one group, or not both with shifts. -/
def sameShift (groupOf : Array Nat) (as bs : List Action) : Bool :=
  match as.getLast?, bs.getLast? with
  | some (.shift s _), some (.shift t _) => groupOf[s]! = groupOf[t]!
  | _, _ => true

/-- Whether the states to which two states lead keep them apart. -/
def successorsDiffer (m : Merging) (groupOf : Array Nat) (i j : Nat) : Bool :=
  let a := m.states[i]!
  let b := m.states[j]!
  let any := fun _ => true
  !(agree (sameShift groupOf) any any (a.actions.length + b.actions.length)
      a.actions b.actions &&
    agree (fun s t => groupOf[s]! = groupOf[t]!) any any (a.gotos.length + b.gotos.length)
      a.gotos b.gotos)

end Merging

/-- Groups of states. -/
structure Groups where
  members : Array (List Nat)
  groupOf : Array Nat

namespace Groups

/-- The members of a group that stay, and those that are kept apart from one that stays. -/
def divide (apart : Nat → Nat → Bool) : Nat → List Nat → List Nat × List Nat
  | 0, is => (is, [])
  | _, [] => ([], [])
  | fuel + 1, i :: is =>
    let (away, near) := is.partition (apart i)
    let (stay, further) := divide apart fuel near
    (i :: stay, away ++ further)

/-- Divides each group from one on, also the groups that arise. -/
def refineFrom (apart : Array Nat → Nat → Nat → Bool) : Nat → Nat → Groups → Groups
  | 0, _, g => g
  | fuel + 1, i, g =>
    if i < g.members.size then
      let is := g.members[i]!
      let (stay, away) := divide (apart g.groupOf) is.length is
      let g := if away.isEmpty then g else
        let k := g.members.size
        ⟨(g.members.set! i stay).push away, away.foldl (fun acc j => acc.set! j k) g.groupOf⟩
      refineFrom apart fuel (i + 1) g
    else g

/-- Divides the groups as long as that changes them. -/
def refine (apart : Array Nat → Nat → Nat → Bool) (bound : Nat) : Nat → Groups → Groups
  | 0, g => g
  | fuel + 1, g =>
    let h := refineFrom apart bound 0 g
    if h.members.size = g.members.size then g else refine apart bound fuel h

/-- The states with the same slots, together. -/
def ofSlots (states : Array ItemState) : Groups :=
  let slots := states.map fun s => s.kernel.map Item.slot
  let (numbers, groupOf) := slots.foldl
    (fun ((m : Std.HashMap (Array Nat) Nat), (acc : Array Nat)) key =>
      match m[key]? with
      | some g => (m, acc.push g)
      | none => (m.insert key m.size, acc.push m.size)) (({} : Std.HashMap (Array Nat) Nat), #[])
  let members := (List.range groupOf.size).foldl
    (fun (acc : Array (List Nat)) i => acc.modify groupOf[i]! (i :: ·))
    (Array.replicate numbers.size [])
  ⟨members.map List.reverse, groupOf⟩

end Groups

/-- Joins the second association list to the first; the first one's entries are kept. -/
def joinEntries {α : Type} (as bs : List (Nat × α)) : List (Nat × α) :=
  as ++ bs.filter fun b => !as.any (·.1 == b.1)

/-- The states after merging: one for each group. -/
def mergeStates (l : Layout) (items : Array ItemState) (states : Array ActionState) :
    Array ActionState :=
  let n := l.numbering
  let m : Merging := ⟨states, n.relation Token.clashes, n.reservedWords, n.ofToken .word⟩
  let bound := items.size
  let g := Groups.refineFrom m.differ bound 0 (.ofSlots items)
  let g := Groups.refine m.successorsDiffer bound bound g
  let renumber : Action → Action
    | .shift s again => .shift g.groupOf[s]! again
    | a => a
  g.members.map fun is =>
    let joined := is.foldl (fun (acc : ActionState) i =>
      let s := states[i]!
      ⟨joinEntries acc.actions s.actions, joinEntries acc.gotos s.gotos,
        acc.tokens.union s.tokens⟩) ⟨[], [], .empty⟩
    ⟨joined.actions.map fun (t, as) => (t, as.map renumber),
      joined.gotos.map fun (x, s) => (x, g.groupOf[s]!), joined.tokens⟩

end SdkGen.Go
