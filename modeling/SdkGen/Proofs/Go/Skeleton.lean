import SdkGen.Proofs.Go.Sieve

/-!
# The brackets of a text

A text outside its comments and literals, reduced to its brackets and to what is left open.

* `skeleton`: the brackets of a text in order.
* `terminal_skeleton`, `bracket_skeleton`: what a token takes away from it.
-/

namespace SdkGen.Go

/-- What is kept of a text. -/
inductive Sign
  | opening
  | closing
  /-- A quote that starts no literal. -/
  | stray
  /-- The start of a block comment that does not end. -/
  | comment
  deriving DecidableEq

/-- Length of the literal between quotes that starts here. -/
def literalLength (cs : List Char) : Nat :=
  max (runeLength cs) (max (textLength cs) (rawTextLength cs))

/-- What is kept of the first character, where neither a comment nor a literal starts. -/
def firstSign : List Char → List Sign
  | [] => []
  | c :: r =>
    if openings.contains c then [.opening]
    else if closings.contains c then [.closing]
    else if quotes.contains c then [.stray]
    else if c = '/' && r.head? = some '*' then [.comment]
    else []

/-- What is kept of a text. The first argument counts the characters of a comment or literal that
are still to be passed. -/
def skeletonFrom : Nat → List Char → List Sign
  | _, [] => []
  | k + 1, _ :: r => skeletonFrom k r
  | 0, c :: r =>
    match max (commentLength (c :: r)) (literalLength (c :: r)) with
    | 0 => firstSign (c :: r) ++ skeletonFrom 0 r
    | n + 1 => skeletonFrom n r

/-- What is kept of a text. -/
def skeleton (cs : List Char) : List Sign := skeletonFrom 0 cs

variable {c : Char} {cs u v r : List Char}

/-- No literal starts without a quote. -/
theorem literalLength_zero (hc : c ∉ quotes) : literalLength (c :: r) = 0 := by
  simp only [quotes, List.mem_cons, List.not_mem_nil, or_false, not_or] at hc
  rw [literalLength, runeLength_zero hc.2.1, textLength_zero hc.1, rawTextLength_zero hc.2.2]
  rfl

theorem text_literal (h : max (textLength cs) (rawTextLength cs) ≠ 0) :
    literalLength cs = max (textLength cs) (rawTextLength cs) := by
  cases cs with
  | nil => rfl
  | cons c r =>
    have hc : c ≠ '\'' := by
      rintro rfl
      refine h ?_
      rw [textLength_zero (by decide), rawTextLength_zero (by decide), Nat.max_self]
    rw [literalLength, runeLength_zero hc, Nat.zero_max]

theorem rune_literal (h : runeLength cs ≠ 0) : literalLength cs = runeLength cs := by
  cases cs with
  | nil => rfl
  | cons c r =>
    obtain rfl : c = '\'' := Decidable.not_imp_comm.1 runeLength_zero h
    rw [literalLength, textLength_zero (by decide), rawTextLength_zero (by decide)]
    simp

theorem firstSign_silent (r : List Char) (hc : c ∉ quotes ++ openings ++ closings ++ ['/']) :
    firstSign (c :: r) = [] := by
  simp only [List.mem_append, List.mem_singleton, not_or] at hc
  obtain ⟨⟨⟨hquote, hopening⟩, hclosing⟩, hslash⟩ := hc
  simp [firstSign, hopening, hclosing, hquote, hslash]

/-- The sieve that keeps the skeleton of a text. -/
def skeletonSieve : Sieve Sign where
  literal := literalLength
  sign := firstSign
  literal_zero _ := literalLength_zero
  literal_rune := rune_literal
  literal_text := text_literal
  sign_silent := firstSign_silent

theorem skeletonFrom_eq (k : Nat) (cs : List Char) :
    skeletonFrom k cs = skeletonSieve.keptFrom k cs := by
  induction cs generalizing k with
  | nil => rfl
  | cons c r ih =>
    cases k with
    | succ k => exact ih k
    | zero =>
      change (match max (commentLength (c :: r)) (literalLength (c :: r)) with
        | 0 => firstSign (c :: r) ++ skeletonFrom 0 r
        | n + 1 => skeletonFrom n r) = match max (commentLength (c :: r)) (literalLength (c :: r)) with
        | 0 => firstSign (c :: r) ++ skeletonSieve.keptFrom 0 r
        | n + 1 => skeletonSieve.keptFrom n r
      split
      · rw [ih]
      · rw [ih]

theorem skeleton_eq (cs : List Char) : skeleton cs = skeletonSieve.kept cs := skeletonFrom_eq 0 cs

theorem skipBlanks_skeleton (lines : Bool) (c : Cursor) :
    skeleton (skipBlanks lines c).rest = skeleton c.rest := by
  rw [skeleton_eq, skeleton_eq]
  exact skeletonSieve.kept_skipBlanks lines c

/-- What is kept of a bracket. -/
def bracketSign (ch : Char) : Sign := if openings.contains ch then .opening else .closing

theorem firstSign_bracket {ch : Char} (hch : ch ∈ openings ++ closings) (r : List Char) :
    firstSign (ch :: r) = [bracketSign ch] := by
  have hor : openings.contains ch = true ∨ closings.contains ch = true := by
    simpa only [List.contains_iff_mem, List.mem_append] using hch
  by_cases hopening : openings.contains ch = true
  · simp only [firstSign, bracketSign, if_pos hopening]
  · have hclosing := hor.resolve_left hopening
    simp only [firstSign, bracketSign, if_neg hopening, if_pos hclosing]

/-- **A bracket takes its sign from what is kept of a text.** -/
theorem bracket_skeleton {ch : Char} {c d : Cursor} {ts : List Tree}
    (hch : ch ∈ openings ++ closings) (h : readBracket ch c = .matched ts d) :
    skeleton c.rest = bracketSign ch :: skeleton d.rest := by
  rw [skeleton_eq, skeleton_eq, skeletonSieve.kept_bracket hch h]
  exact congrArg (· ++ _) (firstSign_bracket hch d.rest)

end SdkGen.Go
