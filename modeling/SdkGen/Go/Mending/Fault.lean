import SdkGen.Go.Mending.Mend

/-!
# What is wrong with a text

* `Fault`: text that was passed over, or a token that is missing.
* `Piece.firstFault?`: the first fault in a mended text; a missing line end is none.
-/

namespace SdkGen.Go

/-- What is wrong with a text, by character places. -/
inductive Fault
  | passedOver (start stop : Nat)
  | missing (token : String) (place : Nat)
  deriving Repr, DecidableEq

namespace Piece

/-- The name by which a missing token is reported. -/
def missingName (m : Machine) (renamed : Option String) (p : Piece) : String :=
  match renamed, p.label with
  | some name, _ => name
  | none, .symbol t => (m.numbering.tokens[t]?.map Token.name).getD ""
  | none, _ => ""

mutual

/-- The first fault in a piece that starts at a place. -/
def firstFault? (m : Machine) (renamed : Option String) (place : Nat) : Piece → Option Fault
  | ⟨label, before, size, extra, missing, reserved, shown, cost, below, direct, weight, production,
      parts⟩ =>
    let start := place + before.chars
    if label = .error then some (.passedOver start (start + size.chars))
    else if missing then
      if shown then
        some (.missing (missingName m renamed ⟨label, before, size, extra, missing, reserved, shown,
          cost, below, direct, weight, production, []⟩) start)
      else none
    else if cost = 0 then none
    else
      let steps := match production with
        | some p => (m.productions[p]?.map (·.steps.toList)).getD []
        | none => []
      firstFaultAmong? m place steps parts

/-- The first fault in pieces that follow one another; those that are not extra follow the
steps. -/
def firstFaultAmong? (m : Machine) (place : Nat) (steps : List Step) :
    List Piece → Option Fault
  | [] => none
  | p :: ps =>
    let renamed := if p.extra then none else steps.head?.bind (·.renamed)
    match firstFault? m renamed place p with
    | some fault => some fault
    | none =>
      firstFaultAmong? m (place + p.before.chars + p.size.chars)
        (if p.extra then steps else steps.tail) ps

end

end Piece

end SdkGen.Go
