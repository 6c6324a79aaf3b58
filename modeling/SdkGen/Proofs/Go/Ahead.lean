import SdkGen.Go.Grammar
import SdkGen.Proofs.Go.Runs

/-!
# What the next token decides

Most alternatives of a rule are ruled out by the token that stands next.

* `Next`: the next token, by its kind.
* `Before`: a cursor where that token stands next.
* `Rule.peek`: what becomes of a rule before a token, where the token alone decides.
* `runs_peek`: this is what becomes of it.
-/

namespace SdkGen.Go

/-- The next token by its kind. -/
inductive Next
  /-- An identifier that is no keyword. -/
  | name
  | reserved (word : String)
  | mark (text : String)
  | number
  | quote
  | opening (b : Bracket)
  | closing (b : Bracket)
  /-- Any token. -/
  | unknown
  deriving DecidableEq

namespace Next

/-- Whether a token of a class may stand next. -/
def may : Next → Terminal → Bool
  | name, .word => true
  | name, .keyword w => !keywords.contains w
  | reserved v, .keyword w => v = w
  | mark m, .mark wanted => wanted.contains m
  | number, .number => true
  | quote, .text => true
  | unknown, _ => true
  | _, _ => false

/-- Whether an opening bracket may stand next. -/
def mayOpen : Next → Bracket → Bool
  | opening b, b' => b = b'
  | unknown, _ => true
  | _, _ => false

/-- Whether a closing bracket may stand next. -/
def mayClose : Next → Bracket → Bool
  | closing b, b' => b = b'
  | unknown, _ => true
  | _, _ => false

end Next

/-- A token stands next at a cursor, on the same line or on a later one. -/
structure Before (n : Next) (onLine : Bool) (c : Cursor) : Prop where
  terminal : ∀ t, n.may t = false → t ≠ .terminator → t.read c = .absent
  terminator : n.may .terminator = false → onLine = true → Terminal.terminator.read c = .absent
  opening : ∀ b, n.mayOpen b = false → (skipBlanks true c).rest.head? ≠ some b.opening
  closing : ∀ b, n.mayClose b = false → (skipBlanks true c).rest.head? ≠ some b.closing
  sameLine : readSameLine c = if onLine then .matched [] c else .absent

variable {ι : Type}

namespace Rule

/-- What becomes of a rule before a token, given this of the phrases: `some false` where it is
absent, `some true` where it is matched and reads nothing. -/
def peek (n : Next) (onLine : Bool) (below : ι → Option Bool) : Rule ι → Option Bool
  | .empty => some true
  | .terminal t => if n.may t || (t = .terminator && !onLine) then none else some false
  | .sequence a b =>
    match a.peek n onLine below with
    | some true => b.peek n onLine below
    | o => o
  | .choice a b =>
    match a.peek n onLine below with
    | some false => b.peek n onLine below
    | o => o
  | .many r => (r.peek n onLine below).map fun _ => true
  | .enclosed b _ => if n.mayOpen b then none else some false
  | .node _ r => r.peek n onLine below
  | .phrase i => below i
  | .attempt r => r.peek n onLine below
  | .look p r => (r.peek n onLine below).map fun matched => matched == p
  | .sameLine => some onLine
  | .beforeOpening b => if n.mayOpen b then none else some false
  | .beforeClosing b => if n.mayClose b then none else some false

/-- What becomes of a phrase before a token; the number bounds how deep phrases are followed. -/
def peekPhrase (g : ι → Rule ι) (n : Next) (onLine : Bool) : Nat → ι → Option Bool
  | 0, _ => none
  | k + 1, i => (g i).peek n onLine (peekPhrase g n onLine k)

end Rule

/-- The outcome that a look at the next token predicts. -/
def predicted (c : Cursor) : Bool → Outcome
  | true => .matched [] c
  | false => .absent

theorem standsBefore_absent {ch : Char} {c : Cursor}
    (h : (skipBlanks true c).rest.head? ≠ some ch) : standsBefore ch c = .absent := by
  rw [standsBefore, if_neg h]

theorem readBracket_absent {ch : Char} {c : Cursor}
    (h : (skipBlanks true c).rest.head? ≠ some ch) : readBracket ch c = .absent := by
  simp only [readBracket, if_neg h]

variable {g : ι → Rule ι} {n : Next} {onLine : Bool} {c : Cursor} {below : ι → Option Bool}

theorem runs_peek_below (hc : Before n onLine c)
    (hbelow : ∀ i p, below i = some p → Runs g (.phrase i) c (predicted c p)) (r : Rule ι)
    (p : Bool)
    (h : r.peek n onLine below = some p) : Runs g r c (predicted c p) := by
  induction r generalizing p with
  | empty => cases h; exact .empty c
  | terminal t =>
    unfold Rule.peek at h
    split at h
    · cases h
    · rename_i hmay
      cases h
      simp only [Bool.or_eq_true, Bool.and_eq_true, decide_eq_true_eq, Bool.not_eq_true', not_or,
        not_and, Bool.not_eq_false, Bool.not_eq_true] at hmay
      have habsent : t.read c = .absent := by
        by_cases ht : t = .terminator
        · subst ht
          exact hc.terminator hmay.1 (hmay.2 rfl)
        · exact hc.terminal t hmay.1 ht
      have hrun := Runs.terminal (g := g) t c
      rw [habsent] at hrun
      exact hrun
  | sequence a b iha ihb =>
    unfold Rule.peek at h
    split at h
    · rename_i ha
      have hruna := iha true ha
      have hrunb := ihb p h
      have := Runs.second hruna hrunb
      cases p <;> exact this
    · rename_i hne
      cases p with
      | true => exact absurd h hne
      | false => exact .first (iha false h) rfl
  | choice a b iha ihb =>
    unfold Rule.peek at h
    split at h
    · rename_i ha
      exact .right (iha false ha) (ihb p h)
    · rename_i hne
      cases p with
      | true => exact .left (iha true h) (by simp [predicted])
      | false => exact absurd h hne
  | many r ih =>
    simp only [Rule.peek, Option.map_eq_some_iff] at h
    obtain ⟨q, hq, rfl⟩ := h
    cases q with
    | true => exact .idle (ih true hq)
    | false => exact .done (ih false hq)
  | enclosed b r ih =>
    unfold Rule.peek at h
    split at h
    · cases h
    · rename_i hopen
      cases h
      exact .unopened (readBracket_absent (hc.opening b (by simpa using hopen)))
  | node k r ih =>
    have := Runs.node (k := k) (ih p h)
    cases p <;> exact this
  | phrase i => exact hbelow i p h
  | attempt r ih =>
    have := Runs.attempt (ih p h)
    cases p <;> exact this
  | look q r ih =>
    simp only [Rule.peek, Option.map_eq_some_iff] at h
    obtain ⟨m, hm, rfl⟩ := h
    have := Runs.look (p := q) (ih m hm)
    cases m <;> cases q <;> exact this
  | sameLine =>
    cases h
    have hrun := Runs.sameLine (g := g) c
    rw [hc.sameLine] at hrun
    cases onLine <;> exact hrun
  | beforeOpening b =>
    unfold Rule.peek at h
    split at h
    · cases h
    · rename_i hopen
      cases h
      have hrun := Runs.beforeOpening (g := g) b c
      rw [standsBefore_absent (hc.opening b (by simpa using hopen))] at hrun
      exact hrun
  | beforeClosing b =>
    unfold Rule.peek at h
    split at h
    · cases h
    · rename_i hclose
      cases h
      have hrun := Runs.beforeClosing (g := g) b c
      rw [standsBefore_absent (hc.closing b (by simpa using hclose))] at hrun
      exact hrun

theorem runs_peekPhrase (hc : Before n onLine c) (k : Nat) :
    ∀ i p, Rule.peekPhrase g n onLine k i = some p → Runs g (.phrase i) c (predicted c p) := by
  induction k with
  | zero => intro i p h; cases h
  | succ k ih => intro i p h; exact .phrase (runs_peek_below hc ih (g i) p h)

/-- **Where the next token decides what becomes of a rule, this is what becomes of it.** -/
theorem runs_peek (hc : Before n onLine c) {r : Rule ι} {p : Bool} (k : Nat)
    (h : r.peek n onLine (Rule.peekPhrase g n onLine k) = some p) : Runs g r c (predicted c p) :=
  runs_peek_below hc (runs_peekPhrase hc k) r p h

theorem runs_nothing (hc : Before n onLine c) {r : Rule ι} (k : Nat)
    (h : r.peek n onLine (Rule.peekPhrase g n onLine k) = some true) :
    Runs g r c (.matched [] c) := runs_peek hc k h

theorem runs_absent (hc : Before n onLine c) {r : Rule ι} (k : Nat)
    (h : r.peek n onLine (Rule.peekPhrase g n onLine k) = some false) : Runs g r c .absent :=
  runs_peek hc k h

/-! ## Alternatives -/

namespace Rule

/-- A choice from one of its alternatives on. -/
def alternative : Nat → Rule ι → Rule ι
  | k + 1, .choice _ b => alternative k b
  | _, r => r

/-- Whether the next token rules the first alternatives of a choice out. -/
def ruledOut (n : Next) (onLine : Bool) (below : ι → Option Bool) : Nat → Rule ι → Bool
  | k + 1, .choice a b => a.peek n onLine below = some false && ruledOut n onLine below k b
  | 0, _ => true
  | _ + 1, _ => false

end Rule

theorem runs_alternative (hc : Before n onLine c) (depth k : Nat) {r : Rule ι} {o : Outcome}
    (h : r.ruledOut n onLine (Rule.peekPhrase g n onLine depth) k = true)
    (hr : Runs g (r.alternative k) c o) : Runs g r c o := by
  induction k generalizing r with
  | zero => cases r <;> exact hr
  | succ k ih =>
    cases r with
    | choice a b =>
      simp only [Rule.ruledOut, Bool.and_eq_true, decide_eq_true_eq] at h
      exact .right (runs_peek hc depth h.1) (ih h.2 hr)
    | _ => simp [Rule.ruledOut] at h

end SdkGen.Go
