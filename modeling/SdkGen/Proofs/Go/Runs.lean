import Mathlib.Tactic.Set
import SdkGen.Go.Reading

/-!
# Readings without a bound

`Rule.read` stops at a depth. `Runs` says what becomes of a rule with no bound: it is the reading
as a derivation, one constructor for each way a rule can go.

* `Runs`: the derivations.
* `runs_unique`: a rule has one outcome at a cursor.
* `Matches`, `matches_of_runs`: the derivations of matched rules alone.
* `runs_progress`: a rule that reads anything comes nearer to the end of the text.
-/

namespace SdkGen.Go

/-! ## Outcomes -/

namespace Outcome

/-- The outcome of a sequence whose first part gave some trees. -/
def after (ts : List Tree) : Outcome → Outcome
  | .matched us e => .matched (ts ++ us) e
  | .absent => if ts.isEmpty then .absent else .refused
  | .refused => .refused

/-- The outcome of a repetition that gave some trees at first. -/
def repeated (ts : List Tree) : Outcome → Outcome
  | .matched us e => .matched (ts ++ us) e
  | _ => .refused

/-- The outcome of a part between brackets, the opening one read. -/
def closedBy (b : Bracket) (opened : List Tree) : Outcome → Outcome
  | .matched ts e =>
    match readBracket b.closing e with
    | .matched closed f => .matched (opened ++ ts ++ closed) f
    | _ => .refused
  | _ => .refused

/-- The outcome of a node. -/
def grouped (k : Kind) : Outcome → Outcome
  | .matched ts d => .matched (Tree.group k ts) d
  | o => o

/-- The outcome of an attempt. -/
def attempted : Outcome → Outcome
  | .refused => .absent
  | o => o

/-- The outcome of a look ahead from a cursor. -/
def looked (present : Bool) (c : Cursor) : Outcome → Outcome
  | .matched _ _ => if present then .matched [] c else .absent
  | _ => if present then .absent else .matched [] c

/-- Whether a rule was matched. -/
def isMatched : Outcome → Bool
  | .matched _ _ => true
  | _ => false

end Outcome

/-- Where lines have not ended. -/
def readSameLine (c : Cursor) : Outcome :=
  if (skipBlanks false c).rest.head? = some '\n' then .absent else .matched [] c

variable {ι : Type}

/-- What becomes of a rule at a cursor. -/
inductive Runs (g : ι → Rule ι) : Rule ι → Cursor → Outcome → Prop
  | empty (c : Cursor) : Runs g .empty c (.matched [] c)
  | terminal (t : Terminal) (c : Cursor) : Runs g (.terminal t) c (t.read c)
  | first {a b : Rule ι} {c : Cursor} {o : Outcome} (ha : Runs g a c o)
      (ho : o.isMatched = false) : Runs g (.sequence a b) c o
  | second {a b : Rule ι} {c d : Cursor} {ts : List Tree} {o : Outcome}
      (ha : Runs g a c (.matched ts d)) (hb : Runs g b d o) :
      Runs g (.sequence a b) c (o.after ts)
  | left {a b : Rule ι} {c : Cursor} {o : Outcome} (ha : Runs g a c o) (ho : o ≠ .absent) :
      Runs g (.choice a b) c o
  | right {a b : Rule ι} {c : Cursor} {o : Outcome} (ha : Runs g a c .absent)
      (hb : Runs g b c o) : Runs g (.choice a b) c o
  | done {r : Rule ι} {c : Cursor} (h : Runs g r c .absent) :
      Runs g (.many r) c (.matched [] c)
  | idle {r : Rule ι} {c d : Cursor} (h : Runs g r c (.matched [] d)) :
      Runs g (.many r) c (.matched [] c)
  | broken {r : Rule ι} {c : Cursor} (h : Runs g r c .refused) : Runs g (.many r) c .refused
  | again {r : Rule ι} {c d : Cursor} {t : Tree} {ts : List Tree} {o : Outcome}
      (h : Runs g r c (.matched (t :: ts) d)) (hm : Runs g (.many r) d o) :
      Runs g (.many r) c (o.repeated (t :: ts))
  | unopened {b : Bracket} {r : Rule ι} {c : Cursor} (h : readBracket b.opening c = .absent) :
      Runs g (.enclosed b r) c .absent
  | enclosed {b : Bracket} {r : Rule ι} {c d : Cursor} {opened : List Tree} {o : Outcome}
      (h : readBracket b.opening c = .matched opened d) (hr : Runs g r d o) :
      Runs g (.enclosed b r) c (o.closedBy b opened)
  | node {k : Kind} {r : Rule ι} {c : Cursor} {o : Outcome} (h : Runs g r c o) :
      Runs g (.node k r) c (o.grouped k)
  | phrase {i : ι} {c : Cursor} {o : Outcome} (h : Runs g (g i) c o) : Runs g (.phrase i) c o
  | attempt {r : Rule ι} {c : Cursor} {o : Outcome} (h : Runs g r c o) :
      Runs g (.attempt r) c o.attempted
  | look {p : Bool} {r : Rule ι} {c : Cursor} {o : Outcome} (h : Runs g r c o) :
      Runs g (.look p r) c (o.looked p c)
  | sameLine (c : Cursor) : Runs g .sameLine c (readSameLine c)
  | beforeOpening (b : Bracket) (c : Cursor) :
      Runs g (.beforeOpening b) c (standsBefore b.opening c)
  | beforeClosing (b : Bracket) (c : Cursor) :
      Runs g (.beforeClosing b) c (standsBefore b.closing c)

variable {g : ι → Rule ι}

theorem readBracket_cases (ch : Char) (c : Cursor) :
    readBracket ch c = .absent ∨ ∃ ts d, readBracket ch c = .matched ts d := by
  unfold readBracket takeToken
  by_cases h : (skipBlanks true c).rest.head? = some ch <;> simp [h]

/-- **A rule has one outcome at a cursor.** -/
theorem runs_unique {r : Rule ι} {c : Cursor} {o o' : Outcome} (h : Runs g r c o)
    (h' : Runs g r c o') : o = o' := by
  induction h generalizing o' with
  | empty => cases h'; rfl
  | terminal => cases h'; rfl
  | first ha ho ih =>
    cases h' with
    | first ha' => exact ih ha'
    | second ha' => rw [ih ha'] at ho; cases ho
  | second ha hb iha ihb =>
    cases h' with
    | first ha' ho' => rw [← iha ha'] at ho'; cases ho'
    | second ha' hb' => cases iha ha'; rw [ihb hb']
  | left ha ho ih =>
    cases h' with
    | left ha' => exact ih ha'
    | right ha' => exact absurd (ih ha') ho
  | right ha hb iha ihb =>
    cases h' with
    | left ha' ho' => exact absurd (iha ha').symm ho'
    | right ha' hb' => exact ihb hb'
  | done h ih =>
    cases h' with
    | done => rfl
    | idle => rfl
    | broken h' => cases ih h'
    | again h' => cases ih h'
  | idle h ih =>
    cases h' with
    | done => rfl
    | idle => rfl
    | broken h' => cases ih h'
    | again h' => cases ih h'
  | broken h ih =>
    cases h' with
    | done h' => cases ih h'
    | idle h' => cases ih h'
    | broken => rfl
    | again h' => cases ih h'
  | again h hm ih ihm =>
    cases h' with
    | done h' => cases ih h'
    | idle h' => cases ih h'
    | broken h' => cases ih h'
    | again h' hm' => cases ih h'; rw [ihm hm']
  | unopened h =>
    cases h' with
    | unopened => rfl
    | enclosed h' => rw [h] at h'; cases h'
  | enclosed h hr ih =>
    cases h' with
    | unopened h' => rw [h] at h'; cases h'
    | enclosed h' hr' => rw [h] at h'; cases h'; rw [ih hr']
  | node h ih => cases h' with | node h' => rw [ih h']
  | phrase h ih => cases h' with | phrase h' => exact ih h'
  | attempt h ih => cases h' with | attempt h' => rw [ih h']
  | look h ih => cases h' with | look h' => rw [ih h']
  | sameLine => cases h'; rfl
  | beforeOpening => cases h'; rfl
  | beforeClosing => cases h'; rfl

/-- From one cursor to another a rule is matched, and gives some trees. -/
inductive Matches (g : ι → Rule ι) : Rule ι → Cursor → List Tree → Cursor → Prop
  | empty (c : Cursor) : Matches g .empty c [] c
  | terminal {t : Terminal} {c d : Cursor} {ts : List Tree} (h : t.read c = .matched ts d) :
      Matches g (.terminal t) c ts d
  | sequence {a b : Rule ι} {c d e : Cursor} {ts us : List Tree} (ha : Matches g a c ts d)
      (hb : Matches g b d us e) : Matches g (.sequence a b) c (ts ++ us) e
  | left {a b : Rule ι} {c d : Cursor} {ts : List Tree} (ha : Matches g a c ts d) :
      Matches g (.choice a b) c ts d
  | right {a b : Rule ι} {c d : Cursor} {ts : List Tree} (hb : Matches g b c ts d) :
      Matches g (.choice a b) c ts d
  | done (r : Rule ι) (c : Cursor) : Matches g (.many r) c [] c
  | again {r : Rule ι} {c d e : Cursor} {ts us : List Tree} (h : Matches g r c ts d)
      (hm : Matches g (.many r) d us e) : Matches g (.many r) c (ts ++ us) e
  | enclosed {b : Bracket} {r : Rule ι} {c d e f : Cursor} {ts us vs : List Tree}
      (hopen : readBracket b.opening c = .matched ts d) (h : Matches g r d us e)
      (hclose : readBracket b.closing e = .matched vs f) :
      Matches g (.enclosed b r) c (ts ++ us ++ vs) f
  | node {k : Kind} {r : Rule ι} {c d : Cursor} {ts : List Tree} (h : Matches g r c ts d) :
      Matches g (.node k r) c (Tree.group k ts) d
  | phrase {i : ι} {c d : Cursor} {ts : List Tree} (h : Matches g (g i) c ts d) :
      Matches g (.phrase i) c ts d
  | attempt {r : Rule ι} {c d : Cursor} {ts : List Tree} (h : Matches g r c ts d) :
      Matches g (.attempt r) c ts d
  -- what looks ahead reads nothing
  | look (p : Bool) (r : Rule ι) (c : Cursor) : Matches g (.look p r) c [] c
  | sameLine (c : Cursor) : Matches g .sameLine c [] c
  | beforeOpening (b : Bracket) (c : Cursor) : Matches g (.beforeOpening b) c [] c
  | beforeClosing (b : Bracket) (c : Cursor) : Matches g (.beforeClosing b) c [] c

theorem standsBefore_matched {ch : Char} {c d : Cursor} {ts : List Tree}
    (h : standsBefore ch c = .matched ts d) : ts = [] ∧ d = c := by
  unfold standsBefore at h
  split at h
  · cases h
    exact ⟨rfl, rfl⟩
  · cases h

/-- **A rule whose outcome is matched** is so by its parts. -/
theorem matches_of_runs {r : Rule ι} {c d : Cursor} {o : Outcome} {ts : List Tree}
    (h : Runs g r c o) (ho : o = .matched ts d) : Matches g r c ts d := by
  induction h generalizing ts d with
  | empty =>
    cases ho
    exact .empty _
  | terminal t c => exact .terminal ho
  | first ha hn ih =>
    subst ho
    cases hn
  | second ha hb iha ihb =>
    rename_i o
    cases o with
    | matched us e =>
      cases ho
      exact .sequence (iha rfl) (ihb rfl)
    | absent => exact absurd ho (by simp only [Outcome.after]; split <;> simp)
    | refused => cases ho
  | left ha hn ih => exact .left (ih ho)
  | right ha hb iha ihb => exact .right (ihb ho)
  | done =>
    cases ho
    exact .done _ _
  | idle =>
    cases ho
    exact .done _ _
  | broken => cases ho
  | again h hm ih ihm =>
    rename_i o
    cases o with
    | matched us e =>
      cases ho
      exact .again (ih rfl) (ihm rfl)
    | absent => cases ho
    | refused => cases ho
  | unopened => cases ho
  | enclosed h hr ih =>
    rename_i b r c d' opened o
    cases o with
    | matched us e =>
      rcases readBracket_cases b.closing e with hclose | ⟨vs, f, hclose⟩
      · simp [Outcome.closedBy, hclose] at ho
      · simp only [Outcome.closedBy, hclose, Outcome.matched.injEq] at ho
        obtain ⟨rfl, rfl⟩ := ho
        exact .enclosed h (ih rfl) hclose
    | absent => cases ho
    | refused => cases ho
  | node h ih =>
    rename_i o
    cases o with
    | matched us e =>
      cases ho
      exact .node (ih rfl)
    | absent => cases ho
    | refused => cases ho
  | phrase h ih => exact .phrase (ih ho)
  | attempt h ih =>
    rename_i o
    cases o with
    | matched us e => exact .attempt (ih ho)
    | absent => cases ho
    | refused => cases ho
  | look h ih =>
    rename_i p r c o
    cases p <;> cases o <;> cases ho <;> exact .look _ r c
  | sameLine c =>
    unfold readSameLine at ho
    split at ho
    · cases ho
    · cases ho
      exact .sameLine c
  | beforeOpening b c =>
    obtain ⟨rfl, rfl⟩ := standsBefore_matched ho
    exact .beforeOpening b _
  | beforeClosing b c =>
    obtain ⟨rfl, rfl⟩ := standsBefore_matched ho
    exact .beforeClosing b _

/-! ## Progress -/

theorem advance_rest (n : Nat) (c : Cursor) : (c.advance n).rest = c.rest.drop n := by
  induction n generalizing c with
  | zero => rfl
  | succ n ih =>
    obtain ⟨rest, p⟩ := c
    cases rest with
    | nil => rfl
    | cons ch r => exact ih ⟨r, p.after ch⟩

theorem skipBlanks_rest (lines : Bool) (c : Cursor) :
    (skipBlanks lines c).rest = c.rest.drop (blankLength lines c.rest) := advance_rest _ _

/-- No token stands at the end of the text. -/
theorem length_nil (t : Terminal) : t.length [] = 0 := by
  cases t with
  | word => simp [Terminal.length, wordLength]
  | keyword w => simp [Terminal.length, wordLength]
  | mark wanted =>
    have h : longestMark marks [] = "" := by decide
    simp [Terminal.length, h]
  | number => decide
  | rune => rfl
  | text => rfl
  | terminator => rfl

theorem takeToken_shorter {n : Nat} {c : Cursor} (h : c.rest ≠ []) :
    (c.advance (n + 1)).rest.length < c.rest.length := by
  have := List.length_pos_iff.2 h
  rw [advance_rest, List.length_drop]
  omega

theorem skipBlanks_le (lines : Bool) (c : Cursor) :
    (skipBlanks lines c).rest.length ≤ c.rest.length := by
  rw [skipBlanks_rest, List.length_drop]
  omega

/-- A match of nothing stays where it is, and any other comes nearer to the end. -/
def Progress (c : Cursor) (ts : List Tree) (d : Cursor) : Prop :=
  (ts = [] ∧ d = c) ∨ (ts ≠ [] ∧ d.rest.length < c.rest.length)

theorem Progress.le {c d : Cursor} {ts : List Tree} (h : Progress c ts d) :
    d.rest.length ≤ c.rest.length := by
  rcases h with ⟨-, rfl⟩ | ⟨-, h⟩
  · exact Nat.le_refl _
  · exact Nat.le_of_lt h

theorem Progress.trans {c d e : Cursor} {ts us : List Tree} (h : Progress c ts d)
    (h' : Progress d us e) : Progress c (ts ++ us) e := by
  rcases h with ⟨rfl, rfl⟩ | ⟨hne, hlt⟩
  · exact h'
  · exact .inr ⟨by simp [hne], Nat.lt_of_le_of_lt h'.le hlt⟩

theorem terminal_advances {t : Terminal} {c d : Cursor} {ts : List Tree}
    (h : t.read c = .matched ts d) : ts ≠ [] ∧ d.rest.length < c.rest.length := by
  unfold Terminal.read at h
  set e := skipBlanks (!t.endsLine) c with he
  cases hlen : t.length e.rest with
  | zero => simp [hlen] at h
  | succ n =>
    have hne : e.rest ≠ [] := by
      intro hnil
      rw [hnil, length_nil] at hlen
      cases hlen
    simp only [hlen, takeToken, Outcome.matched.injEq] at h
    obtain ⟨rfl, rfl⟩ := h
    exact ⟨by simp, Nat.lt_of_lt_of_le (takeToken_shorter hne) (skipBlanks_le _ _)⟩

theorem bracket_advances {ch : Char} {c d : Cursor} {ts : List Tree}
    (h : readBracket ch c = .matched ts d) : ts ≠ [] ∧ d.rest.length < c.rest.length := by
  unfold readBracket at h
  set e := skipBlanks true c with he
  by_cases hhead : e.rest.head? = some ch
  · have hne : e.rest ≠ [] := by
      intro hnil
      rw [hnil] at hhead
      cases hhead
    simp only [hhead, if_true, takeToken, Outcome.matched.injEq] at h
    obtain ⟨rfl, rfl⟩ := h
    exact ⟨by simp, Nat.lt_of_lt_of_le (takeToken_shorter hne) (skipBlanks_le _ _)⟩
  · simp [hhead] at h

theorem Progress.idle (c : Cursor) : Progress c [] c := .inl ⟨rfl, rfl⟩

/-- **A rule that reads anything comes nearer to the end of the text.** -/
theorem runs_progress {r : Rule ι} {c d : Cursor} {o : Outcome} {ts : List Tree}
    (h : Runs g r c o) (ho : o = .matched ts d) : Progress c ts d := by
  have hmatches := matches_of_runs h ho
  clear h ho
  induction hmatches with
  | terminal h => exact .inr (terminal_advances h)
  | sequence ha hb iha ihb => exact iha.trans ihb
  | left ha ih => exact ih
  | right hb ih => exact ih
  | again h hm ih ihm => exact ih.trans ihm
  | enclosed hopen h hclose ih =>
    exact (Progress.trans (.inr (bracket_advances hopen)) ih).trans (.inr (bracket_advances hclose))
  | node h ih =>
    rcases ih with ⟨rfl, rfl⟩ | ⟨hne, hlt⟩
    · exact .idle _
    · obtain ⟨t, us, rfl⟩ := List.exists_cons_of_ne_nil hne
      exact .inr ⟨by simp [Tree.group], hlt⟩
  | phrase h ih => exact ih
  | attempt h ih => exact ih
  | empty c | done r c | look p r c | sameLine c | beforeOpening b c | beforeClosing b c =>
    exact .idle c

end SdkGen.Go
