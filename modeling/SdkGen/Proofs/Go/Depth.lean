import SdkGen.Go.Parse
import SdkGen.Proofs.Go.Runs

/-!
# The bound on the depth of a reading

The bound that `trees?` sets is never reached. A rule reads something before it comes back to
itself, so the depth grows by a constant at most for each character.

* `Rule.consumes`: rules that read something where they are matched.
* `Rule.height`: how deep a rule goes before it reads anything.
* `read_sequence` … `read_look`: the bounded reading of a rule, from the outcomes for its parts.
* `read_runs`: above the bound, the bounded reading is the unbounded one.
* `trees?_eq_some`: the trees of a text by the unbounded reading.
* `parse_of_trees`: a text that has trees is parsed by them.
-/

namespace SdkGen.Go

variable {ι : Type}

namespace Rule

/-- Rules that read something where they are matched, given that all phrases do. -/
def consumes : Rule ι → Bool
  | .empty => false
  | .terminal _ => true
  | .sequence a b => a.consumes || b.consumes
  | .choice a b => a.consumes && b.consumes
  | .many _ => false
  | .enclosed _ _ => true
  | .node _ r => r.consumes
  | .phrase _ => true
  | .attempt r => r.consumes
  | .look _ _ => false
  | .sameLine => false
  | .beforeOpening _ => false
  | .beforeClosing _ => false

/-- How deep a rule goes before it reads anything, given this of the phrases. -/
def height (w : ι → Nat) : Rule ι → Nat
  | .empty => 1
  | .terminal _ => 1
  | .sequence a b => 1 + max (a.height w) (if a.consumes then 0 else b.height w)
  | .choice a b => 1 + max (a.height w) (b.height w)
  | .many r => 1 + r.height w
  | .enclosed _ _ => 1
  | .node _ r => 1 + r.height w
  | .phrase i => 1 + w i
  | .attempt r => 1 + r.height w
  | .look _ r => 1 + r.height w
  | .sameLine => 1
  | .beforeOpening _ => 1
  | .beforeClosing _ => 1

/-- All parts of a rule are less deep than `k` before they read anything. -/
def fits (w : ι → Nat) (k : Nat) (r : Rule ι) : Bool :=
  r.height w < k && match r with
    | .sequence a b => a.fits w k && b.fits w k
    | .choice a b => a.fits w k && b.fits w k
    | .many r => r.fits w k
    | .enclosed _ r => r.fits w k
    | .node _ r => r.fits w k
    | .attempt r => r.fits w k
    | .look _ r => r.fits w k
    | _ => true

end Rule

/-- The phrases of a grammar read something, and are as deep as is said. -/
structure Bounded (g : ι → Rule ι) (w : ι → Nat) (k : Nat) : Prop where
  consumes : ∀ i, (g i).consumes = true
  height : ∀ i, (g i).height w ≤ w i
  fits : ∀ i, (g i).fits w k = true

variable {g : ι → Rule ι} {w : ι → Nat} {k : Nat}

/-- A rule that reads something where it is matched does not match nothing. -/
theorem runs_consumes (hg : ∀ i, (g i).consumes = true) {r : Rule ι} {c d : Cursor} {o : Outcome}
    (h : Runs g r c o) (hr : r.consumes = true) : o ≠ .matched [] d := by
  induction h generalizing d with
  | empty => cases hr
  | terminal t c => exact fun ho => (terminal_advances ho).1 rfl
  | first ha hn ih => rintro rfl; cases hn
  | second ha hb iha ihb =>
    rename_i ts o
    simp only [Rule.consumes, Bool.or_eq_true] at hr
    cases o with
    | matched us e =>
      simp only [Outcome.after, ne_eq, Outcome.matched.injEq, List.append_eq_nil_iff]
      rintro ⟨⟨rfl, rfl⟩, rfl⟩
      rcases hr with hr | hr
      · exact iha hr rfl
      · exact ihb hr rfl
    | absent => simp only [Outcome.after]; split <;> simp
    | refused => simp [Outcome.after]
  | left ha hn ih =>
    simp only [Rule.consumes, Bool.and_eq_true] at hr
    exact ih hr.1
  | right ha hb iha ihb =>
    simp only [Rule.consumes, Bool.and_eq_true] at hr
    exact ihb hr.2
  | done => cases hr
  | idle => cases hr
  | broken => cases hr
  | again => cases hr
  | unopened => simp
  | enclosed h hr' ih =>
    rename_i b r c d' opened o
    have hopened := (bracket_advances h).1
    cases o with
    | matched us e =>
      rcases readBracket_cases b.closing e with hc | ⟨vs, f, hc⟩ <;>
        simp [Outcome.closedBy, hc, hopened]
    | absent => simp [Outcome.closedBy]
    | refused => simp [Outcome.closedBy]
  | node h ih =>
    rename_i k r c o
    cases o with
    | matched us e =>
      cases us with
      | nil => exact absurd rfl (ih hr)
      | cons u us => simp [Outcome.grouped, Tree.group]
    | absent => simp [Outcome.grouped]
    | refused => simp [Outcome.grouped]
  | phrase h ih => exact ih (hg _)
  | attempt h ih =>
    rename_i o
    cases o with
    | matched us e => exact ih hr
    | absent => simp [Outcome.attempted]
    | refused => simp [Outcome.attempted]
  | look => cases hr
  | sameLine => cases hr
  | beforeOpening => cases hr
  | beforeClosing => cases hr

namespace Rule

theorem fits_height {r : Rule ι} (h : r.fits w k = true) : r.height w < k := by
  unfold fits at h
  simp only [Bool.and_eq_true, decide_eq_true_eq] at h
  exact h.1

/-! ## One step of the bounded reading -/

section

variable {n : Nat} {a b r : Rule ι} {c : Cursor}

theorem read_sequence : read g (n + 1) (.sequence a b) c =
    match read g n a c with
    | .matched ts d => (read g n b d).after ts
    | o => o := rfl

theorem read_choice : read g (n + 1) (.choice a b) c =
    match read g n a c with
    | .absent => read g n b c
    | o => o := rfl

theorem read_many : read g (n + 1) (.many r) c =
    match read g n r c with
    | .matched [] _ => .matched [] c
    | .matched (t :: ts) d => (read g n (.many r) d).repeated (t :: ts)
    | .absent => .matched [] c
    | .refused => .refused := rfl

theorem read_enclosed (b : Bracket) : read g (n + 1) (.enclosed b r) c =
    match readBracket b.opening c with
    | .matched opened d => (read g n r d).closedBy b opened
    | o => o := rfl

theorem read_node (k : Kind) : read g (n + 1) (.node k r) c = (read g n r c).grouped k := rfl

theorem read_attempt : read g (n + 1) (.attempt r) c = (read g n r c).attempted := rfl

theorem read_look (p : Bool) : read g (n + 1) (.look p r) c = (read g n r c).looked p c := rfl

end

end Rule

/-- **Above the bound, the bounded reading is the unbounded one.** -/
theorem read_runs (hg : Bounded g w k) (n : Nat) (r : Rule ι) (c : Cursor)
    (hr : r.fits w k = true) (hn : r.height w + k * c.rest.length ≤ n) :
    Runs g r c (Rule.read g n r c) := by
  induction n generalizing r c with
  | zero => cases r <;> simp [Rule.height] at hn
  | succ n ih =>
    -- what is left of the bound once anything was read
    have hlater : ∀ (r : Rule ι) (d : Cursor), r.fits w k = true →
        d.rest.length < c.rest.length → k * c.rest.length ≤ n → Runs g r d (Rule.read g n r d) := by
      intro r d hr hd hk
      refine ih r d hr ?_
      have h1 := Rule.fits_height hr
      have h2 : k * (d.rest.length + 1) ≤ k * c.rest.length := Nat.mul_le_mul_left _ hd
      rw [Nat.mul_add] at h2
      omega
    cases r with
    | empty => exact .empty c
    | terminal t => exact .terminal t c
    | sequence a b =>
      simp only [Rule.fits, Bool.and_eq_true, Rule.height] at hr hn
      obtain ⟨-, ha, hb⟩ := hr
      have hna : a.height w + k * c.rest.length ≤ n := by omega
      have hruna := ih a c ha hna
      cases hreada : Rule.read g n a c with
      | absent | refused =>
        rw [Rule.read_sequence, hreada]
        rw [hreada] at hruna
        exact .first hruna rfl
      | matched ts d =>
        rw [hreada] at hruna
        have hrunb : Runs g b d (Rule.read g n b d) := by
          rcases runs_progress hruna rfl with ⟨rfl, rfl⟩ | ⟨-, hlt⟩
          · have hempty : a.consumes = false := by
              rw [← Bool.not_eq_true]
              exact fun hc => runs_consumes hg.consumes hruna hc rfl
            simp only [hempty, Bool.false_eq_true, if_false] at hn
            exact ih b d hb (by omega)
          · exact hlater b d hb hlt (by omega)
        rw [Rule.read_sequence, hreada]
        exact .second hruna hrunb
    | choice a b =>
      simp only [Rule.fits, Bool.and_eq_true, Rule.height] at hr hn
      obtain ⟨-, ha, hb⟩ := hr
      have hruna := ih a c ha (by omega)
      have hrunb := ih b c hb (by omega)
      rw [Rule.read_choice]
      cases hreada : Rule.read g n a c with
      | absent => rw [hreada] at hruna; exact .right hruna hrunb
      | refused => rw [hreada] at hruna; exact .left hruna (by simp)
      | matched ts d => rw [hreada] at hruna; exact .left hruna (by simp)
    | many r =>
      have hfits := hr
      simp only [Rule.fits, Bool.and_eq_true, Rule.height] at hr hn
      have hrun := ih r c hr.2 (by omega)
      cases hread : Rule.read g n r c with
      | absent =>
        rw [Rule.read_many, hread]
        rw [hread] at hrun
        exact .done hrun
      | refused =>
        rw [Rule.read_many, hread]
        rw [hread] at hrun
        exact .broken hrun
      | matched ts d =>
        rw [hread] at hrun
        cases ts with
        | nil =>
          rw [Rule.read_many, hread]
          exact .idle hrun
        | cons t ts =>
          have hlt : d.rest.length < c.rest.length := by
            rcases runs_progress hrun rfl with ⟨h, -⟩ | ⟨-, hlt⟩
            · cases h
            · exact hlt
          rw [Rule.read_many, hread]
          exact .again hrun (hlater (.many r) d hfits hlt (by omega))
    | enclosed b r =>
      simp only [Rule.fits, Bool.and_eq_true, Rule.height] at hr hn
      rcases readBracket_cases b.opening c with hopen | ⟨opened, d, hopen⟩
      · rw [Rule.read_enclosed, hopen]
        exact .unopened hopen
      · rw [Rule.read_enclosed, hopen]
        exact .enclosed hopen (hlater r d hr.2 (bracket_advances hopen).2 (by omega))
    | node kind r =>
      simp only [Rule.fits, Bool.and_eq_true, Rule.height] at hr hn
      rw [Rule.read_node]
      exact .node (ih r c hr.2 (by omega))
    | phrase i =>
      simp only [Rule.height] at hn
      have := hg.height i
      exact .phrase (ih (g i) c (hg.fits i) (by omega))
    | attempt r =>
      simp only [Rule.fits, Bool.and_eq_true, Rule.height] at hr hn
      rw [Rule.read_attempt]
      exact .attempt (ih r c hr.2 (by omega))
    | look p r =>
      simp only [Rule.fits, Bool.and_eq_true, Rule.height] at hr hn
      rw [Rule.read_look]
      exact .look (ih r c hr.2 (by omega))
    | sameLine => exact .sameLine c
    | beforeOpening b => exact .beforeOpening b c
    | beforeClosing b => exact .beforeClosing b c

/-! ## The grammar of Go -/

/-- How deep the phrases go before they read anything. -/
def phraseHeight : Phrase → Nat
  | .parameters => 1
  | .literalValue => 1
  | .type _ => 20
  | .expression _ => 60
  | .ifStatement => 10
  | .statement => 100
  | .operandFirst => 10

/-- Every phrase reads something, and none goes too deep before it does. -/
theorem bounded_grammar : Bounded grammar phraseHeight 400 := by
  refine ⟨?_, ?_, ?_⟩ <;> intro i <;>
    rcases i with (_ | _) | _ | ⟨_ | _, _ | _⟩ | _ | _ | _ | _ <;> decide

theorem fits_sourceFile : sourceFile.fits phraseHeight 400 = true := by decide

/-- **The trees of a text** are those of a reading of a whole file with nothing left after it. -/
theorem trees?_eq_some {cs : List Char} {ts : List Tree} :
    trees? cs = some ts ↔ ∃ c, Runs grammar sourceFile (.ofChars cs) (.matched ts c) ∧
      (skipBlanks true c).rest = [] := by
  have hrun := read_runs bounded_grammar (depthBound cs) sourceFile (.ofChars cs) fits_sourceFile
    (by
      have : sourceFile.height phraseHeight ≤ 800 := by decide
      change _ + 400 * cs.length ≤ 400 * (cs.length + 2)
      omega)
  unfold trees?
  constructor
  · intro h
    split at h
    · rename_i us c hread
      rw [hread] at hrun
      split at h
      · rename_i hrest
        cases h
        exact ⟨c, hrun, List.isEmpty_iff.1 hrest⟩
      · cases h
    · cases h
  · rintro ⟨c, hc, hrest⟩
    rw [runs_unique hrun hc]
    simp [hrest]

/-- A text that the grammar takes is not mended. -/
theorem parse_of_trees {source : String} {ts : List Tree}
    (h : trees? (withoutMark source) = some ts) :
    parse source = SourceFile.ofNodes (ts.filterMap TopNode.ofTree?) := by
  unfold parse
  simp only [h]
  rfl

/-- The same for the characters of a text without a byte order mark. -/
theorem parse_of_chars {cs : List Char} {ts : List Tree} (h : trees? cs = some ts)
    (hcs : cs.head? ≠ some byteOrderMark) :
    parse (String.ofList cs) = SourceFile.ofNodes (ts.filterMap TopNode.ofTree?) := by
  have hmark : withoutMark (String.ofList cs) = cs := by
    unfold withoutMark
    rw [String.toList_ofList]
    cases cs with
    | nil => rfl
    | cons c r => exact if_neg (by simpa using hcs)
  exact parse_of_trees (by rw [hmark, h])

end SdkGen.Go
