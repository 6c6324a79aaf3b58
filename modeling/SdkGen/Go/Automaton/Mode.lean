import SdkGen.Go.Automaton.Merge

/-!
# Modes of the scanner

In a state the scanner looks for the tokens of the state's mode. States share a mode where that
makes no token of one state be mistaken for a token of another.

* `Modes`: the sets of tokens that are looked for, the first one for a text in error.
* `Modes.ofStates`: the modes of some states, by state.
-/

namespace SdkGen.Go

/-- The sets of tokens that the scanner looks for; the first one is for a text in error. -/
structure Modes where
  tokens : Array TokenSet
  /-- The mode of each state. -/
  ofState : Array Nat

namespace Numbering

/-- The tokens to scan for: a reserved word is scanned as a word. -/
def scanned (n : Numbering) (tokens : TokenSet) : TokenSet :=
  if tokens.meets n.reservedWords then (tokens.diff n.reservedWords).insert (n.ofToken .word)
  else tokens

/-- The tokens looked for in a text in error. -/
def erring (n : Numbering) : TokenSet :=
  n.scanned ((TokenSet.ofList (List.range n.tokens.size)).diff
    (.ofList [n.ofToken .lineEnd, n.ofToken .content]))

/-- The tokens that may not share a mode with each token. Tokens of one state may be looked for
together though one goes on to the other. -/
def apart (n : Numbering) (states : Array ActionState) : Array TokenSet :=
  let together := states.foldl (fun (acc : Array TokenSet) s =>
    (s.tokens.toList n.tokens.size).foldl (fun acc t => acc.modify t (·.union s.tokens)) acc)
    (Array.replicate n.tokens.size .empty)
  let clashing := n.relation Token.clashes
  let overlapping := n.relation fun a b =>
    a.isHidden b || b.isHidden a || a.isExtended b || b.isExtended a
  ((List.range n.tokens.size).map fun t =>
    if t = 0 then .empty
    else clashing[t]!.union (overlapping[t]!.diff together[t]!)).toArray

end Numbering

namespace Modes

/-- Whether no token that only one of two sets holds is apart from a token of the other set. -/
def compatible (n : Numbering) (apart : Array TokenSet) (a b : TokenSet) : Bool :=
  ((a.diff b).toList n.tokens.size).all (fun t => !apart[t]!.meets b) &&
    ((b.diff a).toList n.tokens.size).all (fun t => !apart[t]!.meets a)

/-- Gives a state the first mode that its tokens can join, or a new one. -/
def assign (n : Numbering) (apart : Array TokenSet) (m : Modes) (state : Nat)
    (tokens : TokenSet) : Modes :=
  match m.tokens.findIdx? (compatible n apart · tokens) with
  | some k => ⟨m.tokens.modify k (·.union tokens), m.ofState.set! state k⟩
  | none => ⟨m.tokens.push tokens, m.ofState.set! state m.tokens.size⟩

/-- The modes of the merged states. The states with most symbols come first. -/
def ofStates (n : Numbering) (states merged : Array ActionState) : Modes :=
  let apart := n.apart states
  let size (i : Nat) := if i = 0 then 1000000
    else merged[i]!.actions.length + merged[i]!.gotos.length
  let order := (List.range merged.size).mergeSort fun i j => size j ≤ size i
  order.foldl (fun m i => m.assign n apart i (n.scanned merged[i]!.tokens))
    ⟨#[n.erring], Array.replicate merged.size 0⟩

end Modes

end SdkGen.Go
