import SdkGen.Go.Mending.Search

/-!
# Going on after an error

Where the next token cannot follow, a reading supplies a missing token, if the next token can
follow that; and it passes over text until a token can follow one of the places where it was
before.

* `Search.closeAll`: ends all productions that can end at a place.
* `Search.accept`: ends a reading at the end of the text.
* `Search.recover`: goes back to an earlier place, or passes over the next token.
* `Search.handleError`: what is done when a token cannot follow.
-/

namespace SdkGen.Go

namespace Search

/-- The number of the token that a piece is; stray characters are none. -/
def tokenOf? (p : Piece) : Option Nat :=
  match p.label with
  | .symbol t => some t
  | _ => none

/-- The actions for a piece in a state. -/
def actionsFor (s : Search) (state : Nat) (next : Piece) : List Action :=
  match tokenOf? next with
  | some t => s.actions state t
  | none => []

/-- Whether a reading with some cost would clearly be worse than one of the others that has come
as far. -/
def worseThan (standing : Standing) (v bytes : Nat) (s : Search) :
    List Nat → Bool × Search
  | [] => (false, s)
  | w :: ws =>
    if w = v || !s.isActive w || (s.top w).bytes < bytes then worseThan standing v bytes s ws
    else
      let s := s.settle w
      match standing.compare (s.standing w) with
      | .right true => (true, s)
      | .right false => if s.canMerge w v then (true, s) else worseThan standing v bytes s ws
      | _ => worseThan standing v bytes s ws

/-- Whether a reading should not go on at some cost, because there is a better one. -/
def betterExists (s : Search) (v cost : Nat) : Bool × Search :=
  if s.finished.any (·.cost ≤ cost) then (true, s)
  else
    let s := s.settle v
    let top := s.top v
    worseThan ⟨cost, s.progress v, top.weight, false⟩ v top.bytes s
      (List.range s.readings.size)

/-- Of the two trees of a finished text the preferred one. -/
def finish (s : Search) (root : Piece) : Search :=
  let s := { s with accepted := s.accepted + 1 }
  match s.finished with
  | none => { s with finished := some root }
  | some old => if old.prefersSecond root then { s with finished := some root } else s

/-- The tree over all pieces of a stack: the last one that is not extra takes the others in. -/
def rootOf (pieces : List Piece) : Option Piece :=
  let (own, extras) := Piece.splitExtras pieces
  own.getLast?.map fun p =>
    .ofParts p.label p.shown [] p.production (own.dropLast ++ p.parts ++ extras)

/-- Ends a reading at the end of the text. -/
def accept (s : Search) (v : Nat) (next : Piece) : Search :=
  let s := s.push v (some next) (some 0)
  let ways := s.shared.popAll (s.reading v).node
  let roots := (ways.flatMap Prod.snd).filterMap rootOf
  (roots.foldl finish s).modify v fun r => { r with status := .halted }

/-- The productions that can end in a state before some tokens, of each phrase and length one, and
whether one of the tokens can be read there. -/
def endsBefore (s : Search) (state : Nat) (tokens : List Nat) : List Nat × Bool :=
  let key (p : Nat) :=
    let q := s.machine.productions[p]!
    (q.head, q.steps.size)
  tokens.foldl (fun acc t => (s.actions state t).foldl (fun (ends, reads) a =>
    match a with
    | .shift _ again => (ends, reads || !again)
    | .reduce p =>
      if (key p).2 = 0 || ends.any (key · = key p) then (ends, reads) else (ends ++ [p], reads)
    | _ => (ends, reads)) acc) ([], false)

/-- Ends several productions in a reading; gives the first reading that arises from the last. -/
def reduceAll (s : Search) (v : Nat) (productions : List Nat) : Option Nat × Search :=
  productions.foldl (fun (_, s) p => s.reduce v p) (none, s)

/-- Ends all productions that can end, in a reading and in those that arise from it; before a given
token only those that lead to a place where it can be read. Tells whether there is one. -/
def closeFrom (start first : Nat) (token : Option Nat) :
    Nat → Nat → Nat → Bool → Search → Bool × Search
  | 0, _, _, found, s => (found, s)
  | fuel + 1, v, round, found, s =>
    let count := s.readings.size
    if count ≤ v then (found, s)
    else match s.mergeInto? v ((List.range v).filter (first ≤ ·)) with
      | some s => closeFrom start first token fuel v (round + 1) found s
      | none =>
        let tokens := match token with
          | some t => [t]
          | none => (List.range s.machine.numbering.tokens.size).tail
        let (ends, reads) := match (s.top v).state with
          | some state => s.endsBefore state tokens
          | none => ([], false)
        let (arisen, s) := s.reduceAll v ends
        let next := if v = start then count else v + 1
        if reads then closeFrom start first token fuel next (round + 1) true s
        else match arisen with
          | some w =>
            if round < readingLimit then
              closeFrom start first token fuel v (round + 1) found (s.replace w v)
            else
              closeFrom start first token fuel next (round + 1) found
                (if token.isSome then s.remove v else s)
          | none =>
            closeFrom start first token fuel next (round + 1) found
              (if token.isSome then s.remove v else s)

/-- A bound on the number of readings that arise at one place. -/
def closeBound : Nat := 10000

/-- Ends all productions that can end in a reading. The end of the text stands for any token. -/
def closeAll (s : Search) (v : Nat) (token : Option Nat) : Bool × Search :=
  let token := if token = some 0 then none else token
  closeFrom v s.readings.size token closeBound v 0 false s

/-- The states below a reading at which it may go on after an error. -/
def retreatsOf (s : Search) (v : Nat) : List Retreat :=
  (s.shared.walk (s.reading v).node [] fun (rs : List Retreat) p =>
    if 16 < p.depth then (rs, ⟨false, true⟩)
    else
      let n := s.shared[p.node]!
      let known := (rs.reverse.takeWhile (p.depth ≤ ·.depth)).any fun r =>
        r.depth = p.depth && r.state = n.state
      if known then (rs, ⟨false, false⟩)
      else (rs ++ [⟨n.bytes, n.row, p.depth, n.state⟩], ⟨false, false⟩)).1

/-- Takes a part that was passed over off a reading's stack and gives what it held. -/
def takePassed (s : Search) (v : Nat) : List Piece × Search :=
  let passed := (s.top v).links.filterMap fun l =>
    match l.piece with
    | some p => if p.label = .error then some (p, l.below) else none
    | none => none
  match passed with
  | (p, below) :: _ => (p.parts, s.modify v fun r => { r with node := below })
  | [] => ([], s)

/-- Goes back to a state a number of pieces below along one way: what lies between is passed
over. -/
def retreatAlong (v goal : Nat) (acc : Bool × Search) (way : Nat × List (List Piece)) :
    Bool × Search :=
  let (done, s) := acc
  if s.shared[way.1]!.state ≠ some goal then (done, s)
  else
    let (w, s) := s.branch v way.1
    let (held, s) := s.takePassed w
    let (own, extras) := Piece.splitExtras (held ++ way.2.head?.getD [])
    let s := if own.isEmpty then s
      else s.push w (some { Piece.passed own with extra := true }) (some goal)
    (true, extras.foldl (fun s x => s.push w (some x) (some goal)) s)

/-- Goes back to a state a number of pieces below. -/
def retreatTo (s : Search) (v depth goal : Nat) : Bool × Search :=
  (s.shared.pop (s.reading v).node depth).foldl (retreatAlong v goal) (false, s)

/-- Tries the earlier places where the next token can follow, from the nearest one on. The numbers
are the cost and the count of readings before, and whether text has been passed over. -/
def tryRetreats (v : Nat) (next : Piece) (cost count : Nat) (passing : Bool) (s : Search) :
    List Retreat → Bool × Search
  | [] => (false, s)
  | r :: rs =>
    let top := s.top v
    match r.state with
    | none => tryRetreats v next cost count passing s rs
    | some state =>
      let taken := (List.range count).any fun j =>
        (s.top j).state = some state && (s.top j).bytes = top.bytes
      if r.bytes = top.bytes || taken then tryRetreats v next cost count passing s rs
      else
        let total := cost + Piece.nodeCost * r.depth + (top.bytes - r.bytes) +
          Piece.rowCost * (top.row - r.row)
        let (better, s) := s.betterExists v total
        if better then (false, s)
        else if (s.actionsFor state next).isEmpty then
          tryRetreats v next cost count passing s rs
        else match s.retreatTo v (r.depth + if passing then 1 else 0) state with
          | (true, s) => (true, s)
          | (false, s) => tryRetreats v next cost count passing s rs

/-- Passes over the next token. -/
def passOver (s : Search) (v : Nat) (next : Piece) (passing : Bool) : Search :=
  let isComment := tokenOf? next = some (s.machine.numbering.ofToken .comment)
  let one := Piece.growing [if isComment then { next with extra := true } else next]
  if passing then
    match s.shared.pop (s.reading v).node 1 with
    | (node, parts :: _) :: _ =>
      (s.modify v fun r => { r with node := node }).push v
        (some (.growing (parts ++ [one]))) none
    | _ => s.push v (some one) none
  else s.push v (some one) none

/-- Whether another reading goes on that has not come as far. -/
def isAhead (s : Search) (v : Nat) : Bool :=
  (List.range s.readings.size).any fun w => s.isActive w && (s.top w).bytes < (s.top v).bytes

/-- Goes on in a text in error: at an earlier place where the next token can follow, and also by
passing over the token. At the end of the text all is passed over. Stray characters are left to a
reading that has not come as far, if there is one. -/
def recover (s : Search) (v : Nat) (next : Piece) : Search :=
  let count := s.readings.size
  let s := s.settle v
  let passing := 0 < s.progress v
  let cost := s.cost v
  let (retreated, s) :=
    if next.label = .error then (false, s)
    else tryRetreats v next cost count passing s (s.reading v).retreats
  if tokenOf? next = some 0 then
    (s.push v (some (.passed [])) (some 0)).accept v next
  else
    let halt (s : Search) := s.modify v fun r => { r with status := .halted }
    if retreated && readingLimit < s.readings.size then halt s
    else
      let rows := next.before.rows + next.size.rows
      let total := cost + Piece.nodeCost + next.before.bytes + next.size.bytes +
        Piece.rowCost * rows
      if next.label = .error && s.isAhead v then halt s
      else match s.betterExists v total with
        | (true, s) => halt s
        | (false, s) => s.passOver v next passing

/-- Supplies a token that is missing before the next one, in a state: the first one after which
the next one can follow. -/
def supplyFirst (v state : Nat) (next : Piece) (s : Search) : List Nat → Bool × Search
  | [] => (false, s)
  | t :: ts =>
    match (s.actions state t).getLast? with
    | some (.shift goal _) =>
      let ends := (s.actionsFor goal next).any fun a =>
        match a with
        | .reduce _ => true
        | _ => false
      if goal = state || !ends then supplyFirst v state next s ts
      else
        let w := s.readings.size
        let s := { s with readings := s.readings.push { s.reading v with retreats := [] } }
        let s := s.push w (some (.supplied s.machine t)) (some goal)
        match s.closeAll w (tokenOf? next) with
        | (true, s) => (true, s)
        | (false, s) => supplyFirst v state next s ts
    | _ => supplyFirst v state next s ts

/-- Starts an error in each of some readings; in the first one where that helps, a missing token
is supplied as well. -/
def startErrors (next : Piece) : Bool → Search → List Nat → Search
  | _, s, [] => s
  | supplied, s, v :: vs =>
    let (supplied, s) :=
      match supplied, (s.top v).state with
      | false, some state =>
        supplyFirst v state next s (List.range s.machine.numbering.tokens.size).tail
      | _, _ => (supplied, s)
    startErrors next supplied (s.push v none none) vs

/-- What is done when the next token cannot follow. -/
def handleError (s : Search) (v : Nat) (next : Piece) : Search :=
  let before := s.readings.size
  let (_, s) := s.closeAll v none
  let arisen := (List.range s.readings.size).filter (before ≤ ·)
  let s := startErrors next false s (v :: arisen)
  let s := arisen.foldl (fun s _ => (s.merge? v before).getD s) s
  let s := s.modify v fun r => { r with retreats := [] }
  let retreats := s.retreatsOf v
  (s.modify v fun r => { r with retreats := retreats }).recover v next

end Search

end SdkGen.Go
