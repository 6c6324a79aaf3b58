import SdkGen.Proofs.Go.Scanner

/-!
# What is kept of a text

A sieve goes over a text, passes its comments and literals, and keeps something of the other
characters.

* `Sieve`: what is passed as a literal, and what is kept.
* `Sieve.kept`: what is kept of a text.
* `Sieve.kept_terminal`, `Sieve.kept_bracket`: what a token takes away from it.
-/

namespace SdkGen.Go

variable {α : Type}

/-- A way to go over a text. Literals start with quotes, and those of the grammar are among them;
nothing is kept of most characters. -/
structure Sieve (α : Type) where
  /-- Length of the literal at the start of a text. -/
  literal : List Char → Nat
  /-- What is kept of the first character of a text, where neither a comment nor a literal starts. -/
  sign : List Char → List α
  literal_zero : ∀ {c : Char} (r : List Char), c ∉ quotes → literal (c :: r) = 0
  literal_rune : ∀ {cs : List Char}, runeLength cs ≠ 0 → literal cs = runeLength cs
  literal_text : ∀ {cs : List Char}, max (textLength cs) (rawTextLength cs) ≠ 0 →
    literal cs = max (textLength cs) (rawTextLength cs)
  sign_silent : ∀ {c : Char} (r : List Char), c ∉ quotes ++ openings ++ closings ++ ['/'] →
    sign (c :: r) = []

namespace Sieve

/-- What is kept of a text. The first argument counts the characters of a comment or literal that
are still to be passed. -/
def keptFrom (s : Sieve α) : Nat → List Char → List α
  | _, [] => []
  | k + 1, _ :: r => s.keptFrom k r
  | 0, c :: r =>
    match max (commentLength (c :: r)) (s.literal (c :: r)) with
    | 0 => s.sign (c :: r) ++ s.keptFrom 0 r
    | n + 1 => s.keptFrom n r

/-- What is kept of a text. -/
def kept (s : Sieve α) (cs : List Char) : List α := s.keptFrom 0 cs

variable (s : Sieve α) {c : Char} {cs u v r : List Char}

/-! ## Steps -/

theorem keptFrom_nil (k : Nat) : s.keptFrom k [] = [] := by
  cases k with
  | zero => rfl
  | succ k => rfl

theorem keptFrom_succ (k : Nat) (c : Char) (r : List Char) :
    s.keptFrom (k + 1) (c :: r) = s.keptFrom k r := rfl

theorem keptFrom_zero (c : Char) (r : List Char) :
    s.keptFrom 0 (c :: r) = match max (commentLength (c :: r)) (s.literal (c :: r)) with
      | 0 => s.sign (c :: r) ++ s.keptFrom 0 r
      | n + 1 => s.keptFrom n r := rfl

theorem keptFrom_drop (k : Nat) (cs : List Char) : s.keptFrom k cs = s.kept (cs.drop k) := by
  induction k generalizing cs with
  | zero => rfl
  | succ k ih =>
    cases cs with
    | nil => rw [keptFrom_nil, List.drop_nil, kept, keptFrom_nil]
    | cons c r => rw [keptFrom_succ, ih, List.drop_succ_cons]

/-- Nothing is kept of a comment or a literal. -/
theorem kept_lexeme {n : Nat} (hn : n ≠ 0) (h : max (commentLength cs) (s.literal cs) = n) :
    s.kept (cs.drop n) = s.kept cs := by
  obtain ⟨m, rfl⟩ := Nat.exists_eq_succ_of_ne_zero hn
  cases cs with
  | nil => simp
  | cons c r => rw [List.drop_succ_cons, ← keptFrom_drop, kept, keptFrom_zero, h]

theorem kept_cons (hcomment : commentLength (c :: r) = 0) (hliteral : s.literal (c :: r) = 0) :
    s.kept (c :: r) = s.sign (c :: r) ++ s.kept r := by
  rw [kept, keptFrom_zero, hcomment, hliteral]
  rfl

theorem kept_silent (hc : c ∉ quotes ++ openings ++ closings ++ ['/']) :
    s.kept (c :: r) = s.kept r := by
  have hsign := s.sign_silent r hc
  simp only [List.mem_append, List.mem_singleton, not_or] at hc
  obtain ⟨⟨⟨hquote, -⟩, -⟩, hslash⟩ := hc
  rw [s.kept_cons (commentLength_zero hslash r) (s.literal_zero r hquote), hsign, List.nil_append]

end Sieve

variable {c : Char} {cs u v r : List Char}

theorem textLength_zero (hc : c ≠ '"') : textLength (c :: r) = 0 := by
  simp [textLength, hc]

theorem rawTextLength_zero (hc : c ≠ '\x60') : rawTextLength (c :: r) = 0 := by
  simp [rawTextLength, hc]

theorem runeLength_zero (hc : c ≠ '\'') : runeLength (c :: r) = 0 := by
  simp [runeLength, hc]

theorem not_mem_of_plain (hc : isPlain c = true) : c ∉ quotes ++ openings ++ closings ++ ['/'] := by
  rw [isPlain, Bool.not_eq_true', ← Bool.not_eq_true, List.contains_iff_mem] at hc
  intro hmem
  refine hc ?_
  simp only [specials, List.mem_append, List.mem_cons, List.not_mem_nil, or_false] at hmem ⊢
  rcases hmem with h | h
  · exact .inl h
  · exact .inr (.inl h)

theorem space_silent (hc : isSpace c = true) : c ∉ quotes ++ openings ++ closings ++ ['/'] := by
  intro hmem
  have hnone : ∀ d ∈ quotes ++ openings ++ closings ++ ['/'], isSpace d = false := by
    simp [quotes, openings, closings, isSpace]
  rw [hnone c hmem] at hc
  cases hc

theorem comment_slash (h : commentLength (c :: r) ≠ 0) : c = '/' := by
  by_cases hc : c = '/'
  · exact hc
  · exact absurd (commentLength_zero hc r) h

theorem blanksFrom_end (lines : Bool) (k : Nat) (cs : List Char) :
    commentLength (cs.drop (blankLengthFrom lines k cs)) = 0 := by
  induction cs generalizing k with
  | nil => simp [commentLength]
  | cons c r ih =>
    cases k with
    | succ k => rw [blankLengthFrom, Nat.add_comm, List.drop_succ_cons, ih]
    | zero =>
      rw [blankLengthFrom]
      split
      · rw [Nat.add_comm, List.drop_succ_cons, ih]
      · cases hn : commentLength (c :: r) with
        | zero => exact hn
        | succ n =>
          simp only
          rw [Nat.add_comm, List.drop_succ_cons, ih]

/-- Behind blanks no comment stands. -/
theorem skipBlanks_end (lines : Bool) (c : Cursor) :
    commentLength (skipBlanks lines c).rest = 0 := by
  rw [skipBlanks_rest]
  exact blanksFrom_end lines 0 c.rest

/-! ## Marks -/

/-- One of some marks, with which the text starts, or none. -/
def MarkOf (ms : List String) (cs : List Char) (m : String) : Prop :=
  m = "" ∨ (m ∈ ms ∧ m.toList <+: cs)

/-- The longest mark is a mark that the text starts with, or none. -/
theorem longestMark_mem (ms : List String) (cs : List Char) :
    MarkOf ms cs (longestMark ms cs) := by
  have hfold : ∀ (ns : List String) (best : String), MarkOf ms cs best → (∀ n ∈ ns, n ∈ ms) →
      MarkOf ms cs (ns.foldl (fun best m =>
        if m.toList.isPrefixOf cs && best.length < m.length then m else best) best) := by
    intro ns
    induction ns with
    | nil => exact fun best hbest _ => hbest
    | cons n ns ih =>
      intro best hbest hns
      rw [List.foldl_cons]
      refine ih _ ?_ fun m hm => hns m (by simp [hm])
      split
      · rename_i h
        simp only [Bool.and_eq_true, List.isPrefixOf_iff_prefix] at h
        exact .inr ⟨hns n (by simp), h.1⟩
      · exact hbest
  exact hfold ms "" (.inl rfl) fun n hn => hn

/-- A text of plain characters, perhaps behind a slash. -/
def PlainMark (m : List Char) : Prop :=
  (∀ c ∈ m, isPlain c = true) ∨ ∃ u, m = '/' :: u ∧ ∀ c ∈ u, isPlain c = true

/-- Marks are plain, but for a slash at their start. -/
theorem mark_plain (m : String) (hm : m ∈ marks) : PlainMark m.toList := by
  have hmarks : ∀ m ∈ marks, m.toList.all isPlain = true ∨
      m.toList = '/' :: m.toList.tail ∧ m.toList.tail.all isPlain = true := by decide
  rcases hmarks m hm with h | ⟨hcons, h⟩
  · exact .inl (List.all_eq_true.1 h)
  · exact .inr ⟨_, hcons, List.all_eq_true.1 h⟩

namespace Sieve

variable (s : Sieve α)

theorem kept_append (hu : ∀ c ∈ u, c ∉ quotes ++ openings ++ closings ++ ['/']) :
    s.kept (u ++ v) = s.kept v := by
  induction u with
  | nil => rfl
  | cons c u ih =>
    rw [List.cons_append, s.kept_silent (hu c (by simp)), ih fun d hd => hu d (by simp [hd])]

theorem kept_plain (hu : ∀ c ∈ u, isPlain c = true) : s.kept (u ++ v) = s.kept v :=
  s.kept_append fun c hc => not_mem_of_plain (hu c hc)

theorem kept_take {n : Nat} (h : ∀ c ∈ cs.take n, isPlain c = true) :
    s.kept (cs.drop n) = s.kept cs := by
  have := s.kept_plain (v := cs.drop n) h
  rw [List.take_append_drop] at this
  exact this.symm

/-! ## Blanks -/

/-- Nothing is kept of a comment. -/
theorem kept_comment (h : commentLength cs ≠ 0) :
    s.kept (cs.drop (commentLength cs)) = s.kept cs := by
  have hliteral : s.literal cs = 0 := by
    cases cs with
    | nil => exact absurd rfl h
    | cons c r =>
      rw [comment_slash h]
      exact s.literal_zero r (by decide)
  exact s.kept_lexeme h (by rw [hliteral, Nat.max_zero])

theorem blanksFrom_kept (lines : Bool) (k : Nat) (cs : List Char) :
    s.kept (cs.drop (blankLengthFrom lines k cs)) = s.keptFrom k cs := by
  induction cs generalizing k with
  | nil => rw [keptFrom_drop, List.drop_nil, List.drop_nil]
  | cons c r ih =>
    cases k with
    | succ k => rw [blankLengthFrom, Nat.add_comm, List.drop_succ_cons, keptFrom_succ, ih]
    | zero =>
      rw [blankLengthFrom]
      split
      · rename_i hspace
        have hc : isSpace c = true := by
          simp only [Bool.and_eq_true] at hspace
          exact hspace.1
        rw [Nat.add_comm, List.drop_succ_cons, ih]
        exact (s.kept_silent (space_silent hc)).symm
      · cases hn : commentLength (c :: r) with
        | zero => rfl
        | succ n =>
          have hcomment : s.kept ((c :: r).drop (commentLength (c :: r))) = s.kept (c :: r) :=
            s.kept_comment (by omega)
          rw [hn, List.drop_succ_cons] at hcomment
          simp only
          rw [Nat.add_comm, List.drop_succ_cons, ih, keptFrom_drop, hcomment]
          rfl

/-- Nothing is kept of blanks. -/
theorem kept_skipBlanks (lines : Bool) (c : Cursor) :
    s.kept (skipBlanks lines c).rest = s.kept c.rest := by
  rw [skipBlanks_rest]
  exact s.blanksFrom_kept lines 0 c.rest

/-! ## Tokens -/

/-- Nothing is kept of a mark, where no comment starts and nothing is kept of a slash. -/
theorem kept_mark {m : List Char} (hm : PlainMark m) (hcomment : commentLength (m ++ v) = 0)
    (hslash : ∀ r, m ++ v = '/' :: r → s.sign (m ++ v) = []) : s.kept (m ++ v) = s.kept v := by
  rcases hm with hplain | ⟨u, rfl, hplain⟩
  · exact s.kept_plain hplain
  · rw [List.cons_append] at hcomment hslash ⊢
    rw [s.kept_cons hcomment (s.literal_zero _ (by decide)), hslash _ rfl, List.nil_append,
      s.kept_plain hplain]

/-- Nothing is kept of a literal. -/
theorem kept_literal (h : s.literal cs ≠ 0) : s.kept (cs.drop (s.literal cs)) = s.kept cs := by
  have hcomment : commentLength cs = 0 := by
    cases cs with
    | nil => rfl
    | cons c r =>
      refine commentLength_zero ?_ r
      rintro rfl
      exact h (s.literal_zero r (by decide))
  exact s.kept_lexeme h (by rw [hcomment, Nat.zero_max])

/-- Nothing is kept of a token, where no comment starts and nothing is kept of a slash. -/
theorem kept_length (t : Terminal) (hcomment : commentLength cs = 0)
    (hslash : ∀ r, cs = '/' :: r → s.sign cs = []) :
    s.kept (cs.drop (t.length cs)) = s.kept cs := by
  cases t with
  | word =>
    simp only [Terminal.length]
    split
    · rfl
    · exact s.kept_take (scans_word.plain cs)
  | keyword w =>
    simp only [Terminal.length]
    split
    · exact s.kept_take (scans_word.plain cs)
    · rfl
  | mark wanted =>
    simp only [Terminal.length]
    split
    · rcases longestMark_mem marks cs with h | ⟨hmem, hstart⟩
      · rw [h]
        rfl
      · generalize longestMark marks cs = m at hmem hstart ⊢
        obtain ⟨v, rfl⟩ := hstart
        rw [← String.length_toList, List.drop_left]
        exact (s.kept_mark (mark_plain m hmem) hcomment hslash).symm
    · rfl
  | number => exact s.kept_take (scans_number.plain cs)
  | rune =>
    simp only [Terminal.length]
    by_cases h : runeLength cs = 0
    · rw [h]
      rfl
    · have hliteral := s.literal_rune h
      rw [← hliteral] at h ⊢
      exact s.kept_literal h
  | text =>
    simp only [Terminal.length]
    by_cases h : max (textLength cs) (rawTextLength cs) = 0
    · rw [h]
      rfl
    · have hliteral := s.literal_text h
      rw [← hliteral] at h ⊢
      exact s.kept_literal h
  | terminator =>
    cases cs with
    | nil => rfl
    | cons c r =>
      simp only [Terminal.length, terminatorLength, charLength]
      split
      · rename_i hc
        simp only [Bool.or_eq_true, decide_eq_true_eq] at hc
        refine (s.kept_silent ?_).symm
        rcases hc with (rfl | rfl) | rfl <;> decide
      · rfl

/-- **A token takes nothing from what is kept of a text**, where nothing is kept of a slash. -/
theorem kept_terminal {t : Terminal} {c d : Cursor} {ts : List Tree}
    (hslash : ∀ r, (skipBlanks (!t.endsLine) c).rest = '/' :: r → s.sign ('/' :: r) = [])
    (h : t.read c = .matched ts d) : s.kept d.rest = s.kept c.rest := by
  have hskip := s.kept_skipBlanks (!t.endsLine) c
  have hend := skipBlanks_end (!t.endsLine) c
  unfold Terminal.read at h
  cases hlen : t.length (skipBlanks (!t.endsLine) c).rest with
  | zero => simp [hlen] at h
  | succ n =>
    simp only [hlen, takeToken, Outcome.matched.injEq] at h
    rw [← h.2, advance_rest, ← hlen, s.kept_length t hend (fun r hr => hr ▸ hslash r hr), hskip]

/-- What is kept of a bracket is its sign. -/
theorem kept_sign (hc : c ∈ openings ++ closings) :
    s.kept (c :: r) = s.sign (c :: r) ++ s.kept r := by
  have hslash : ∀ e ∈ openings ++ closings, e ≠ '/' := by simp [openings, closings]
  have hquote : ∀ e ∈ openings ++ closings, e ∉ quotes := by
    simp [openings, closings, quotes]
  exact s.kept_cons (commentLength_zero (hslash c hc) r) (s.literal_zero r (hquote c hc))

/-- **A bracket takes its sign from what is kept of a text.** -/
theorem kept_bracket {ch : Char} {c d : Cursor} {ts : List Tree}
    (hch : ch ∈ openings ++ closings) (h : readBracket ch c = .matched ts d) :
    s.kept c.rest = s.sign (ch :: d.rest) ++ s.kept d.rest := by
  have hskip := s.kept_skipBlanks true c
  unfold readBracket at h
  by_cases hhead : (skipBlanks true c).rest.head? = some ch
  · obtain ⟨r, hr⟩ : ∃ r, (skipBlanks true c).rest = ch :: r := by
      cases hcs : (skipBlanks true c).rest with
      | nil => simp [hcs] at hhead
      | cons e r => exact ⟨r, by simpa [hcs] using hhead⟩
    simp only [hhead, if_true, takeToken, Outcome.matched.injEq] at h
    rw [← h.2, advance_rest, hr, ← hskip, hr, List.drop_succ_cons, List.drop_zero]
    exact s.kept_sign hch
  · simp [hhead] at h

end Sieve

end SdkGen.Go
