import SdkGen.Go.Mending.Recovery

/-!
# Mending a text

The readings of a text are followed side by side, token by token. After each round the worse ones
are given up. A reading that cannot go on waits; when no better one goes on, it goes on after the
error.

* `Search.advance`: one reading takes its next token.
* `Search.condense`: orders, joins and gives up readings.
* `mend`: the tree of a text in which what is wrong has the least cost.
-/

namespace SdkGen.Go

namespace Search

/-- The next token of a reading. -/
def next (s : Search) (v : Nat) : Piece :=
  let m := s.machine
  let top := s.top v
  let scan (state : Option Nat) := m.scan (m.mode state) (top.bytes = 0) top.rest
  let scanned := scan top.state
  let scanned := if scanned.token.isSome then scanned else scan none
  let before := Extent.ofChars (top.rest.take scanned.blank)
  let rest := top.rest.drop scanned.blank
  match scanned.token with
  | none => .stray before (.ofChars (rest.take
      (m.strayLength rest (rest.length + 1) scanned.length 0)))
  | some t =>
    let lexeme := rest.take scanned.length
    let size := Extent.ofChars lexeme
    if t = m.numbering.ofToken .word then
      match m.reserved.lookup (String.ofList lexeme) with
      | none => .ofToken m t before size false
      | some w =>
        let isWord := match top.state with
          | some state => (s.actions state w).isEmpty
          | none => false
        .ofToken m (if isWord then t else w) before size true
    else .ofToken m t before size false

/-- What became of the actions for a token. -/
inductive Performed
  | finished
  /-- The token is still to be read, and productions were ended or not; the first reading that
  arose from the last of them. -/
  | waiting (ended : Bool) (arisen : Option Nat)

/-- Performs the actions for a token. -/
def perform (v : Nat) (next : Piece) : Performed → Search → List Action → Performed × Search
  | done, s, [] => (done, s)
  | .finished, s, _ => (.finished, s)
  | .waiting ended arisen, s, a :: as =>
    match a with
    | .shift _ true => perform v next (.waiting ended arisen) s as
    | .shift state false => (.finished, s.push v (some next) (some state))
    | .pass => (.finished, s.push v (some { next with extra := true }) (s.top v).state)
    | .accept => (.finished, s.accept v next)
    | .reduce p =>
      let (first, s) := s.reduce v p
      perform v next (.waiting true (first.or arisen)) s as

/-- The same token taken for a plain word. -/
def asWord (m : Machine) (p : Piece) : Piece :=
  .ofToken m (m.numbering.ofToken .word) p.before p.size p.reserved

/-- The actions for a reserved word that is taken for a plain one. -/
def asWordActions (s : Search) (v : Nat) (next : Piece) : List Action :=
  let word := s.machine.numbering.ofToken .word
  match (s.top v).state with
  | some state =>
    if next.reserved && tokenOf? next ≠ some word then s.actions state word else []
  | none => []

/-- Takes the next token in a reading: ends productions until it can be read. -/
def take (v : Nat) : Nat → Piece → List Action → Search → Search
  | 0, _, _, s => s.modify v fun r => { r with status := .halted }
  | fuel + 1, next, actions, s =>
    match perform v next (.waiting false none) s actions with
    | (.finished, s) => s
    | (.waiting ended (some w), s) =>
      let s := s.replace w v
      let actions := match (s.top v).state with
        | some state => s.actionsFor state next
        | none => []
      if ended then take v fuel next actions s else s
    | (.waiting true none, s) => s.modify v fun r => { r with status := .halted }
    | (.waiting false none, s) =>
      let word := s.asWordActions v next
      if word.isEmpty then
        s.modify v fun r => { r with status := .paused next, atError := (s.top v).progress }
      else take v fuel (asWord s.machine next) word s

/-- A bound on the productions that end before one token. -/
def takeBound : Nat := 100000

/-- One reading takes its next token. -/
def advance (s : Search) (v : Nat) : Search :=
  let next := s.next v
  match (s.top v).state with
  | some state => take v takeBound next (s.actionsFor state next) s
  | none =>
    if tokenOf? next = some (s.machine.numbering.ofToken .comment) then
      s.push v (some { next with extra := true }) none
    else s.recover v next

/-- One reading takes tokens until it is further than the readings before it, or as far. -/
def advanceWhile (v : Nat) : Nat → Nat → Search → Nat × Search
  | 0, reached, s => (reached, s)
  | fuel + 1, reached, s =>
    if s.isActive v then
      let s := s.advance v
      let bytes := (s.top v).bytes
      if reached < bytes || (0 < v && bytes = reached) then (bytes, s)
      else advanceWhile v fuel reached s
    else (reached, s)

/-- Each reading takes its next token, also the readings that arise. -/
def advanceAll (bound : Nat) : Nat → Nat → Nat → Search → Nat × Search
  | 0, _, reached, s => (reached, s)
  | fuel + 1, v, reached, s =>
    if v < s.readings.size then
      let (reached, s) := advanceWhile v bound reached s
      advanceAll bound fuel (v + 1) reached s
    else (reached, s)

/-- Compares a reading with those before it. Of two readings one is given up if it is clearly
worse, or they are joined, or the better one is put first. Tells whether the reading is gone, and
how many readings before it are. -/
def condenseAt (standing : Standing) : Nat → Nat → Nat → Search → Nat × Search
  | 0, i, _, s => (i, s)
  | fuel + 1, i, j, s =>
    if j < i then
      let s := s.settle j
      let joined := s.merge? j i
      match (s.standing j).compare standing with
      | .left true => (i, s.remove i)
      | .right true => condenseAt standing fuel (i - 1) j (s.remove j)
      | .right false =>
        match joined with
        | some s => (i, s)
        | none =>
          let s := { s with readings := s.readings.swapIfInBounds i j }
          condenseAt standing fuel i (j + 1) s
      | _ =>
        match joined with
        | some s => (i, s)
        | none => condenseAt standing fuel i (j + 1) s
    else (i + 1, s)

/-- Compares all readings; gives the least cost of one that is not in error. -/
def condenseFrom : Nat → Nat → Option Nat → Search → Option Nat × Search
  | 0, _, least, s => (least, s)
  | fuel + 1, i, least, s =>
    if i < s.readings.size then
      match (s.reading i).status with
      | .halted => condenseFrom fuel i least (s.remove i)
      | _ =>
        let s := s.settle i
        let standing := s.standing i
        let least :=
          if standing.inError || least.any (· ≤ standing.cost) then least else some standing.cost
        let (next, s) := condenseAt standing (s.readings.size + 1) i 0 s
        condenseFrom fuel next least s
    else (least, s)

/-- Lets the best reading that waits go on after its error, unless a better one goes on; the other
ones that wait are given up. -/
def resume : Nat → Nat → Nat → Bool → Option Nat → Search → Option Nat × Search
  | 0, _, _, _, least, s => (least, s)
  | fuel + 1, i, count, going, least, s =>
    if i < count then
      match (s.reading i).status with
      | .paused next =>
        if !going && s.accepted < readingLimit then
          let cost := s.cost i
          let s := s.modify i fun r => { r with status := .active }
          resume fuel (i + 1) count true (some cost) (s.handleError i next)
        else resume fuel i (count - 1) going least (s.remove i)
      | _ => resume fuel (i + 1) count true least s
    else (least, s)

/-- Orders, joins and gives up readings; gives the least cost of one that goes on. -/
def condense (s : Search) : Option Nat × Search :=
  let (least, s) := condenseFrom (2 * s.readings.size + 2) 0 none s
  let s := { s with readings := s.readings.extract 0 readingLimit }
  resume (2 * s.readings.size + 2) 0 s.readings.size false least s

/-- Follows the readings to the end of the text. -/
def run (bound : Nat) : Nat → Nat → Search → Search
  | 0, _, s => s
  | fuel + 1, reached, s =>
    if s.readings.isEmpty then s
    else
      let (reached, s) := advanceAll bound bound 0 reached s
      let (least, s) := s.condense
      if s.finished.any fun p => least.all (p.cost < ·) then s else run bound fuel reached s

end Search

/-- The tree of a text in which what is wrong has the least cost. -/
def mend (cs : List Char) : Option Piece :=
  let s : Search :=
    ⟨Machine.ofGo.get, .ofText cs, #[⟨0, .active, 0, []⟩], none, 0⟩
  let bound := 100 * (cs.length + 100)
  (s.run bound bound 0).finished

end SdkGen.Go
