import SdkGen.Proofs.Go.Depth
import SdkGen.Proofs.Go.Nested
import SdkGen.Proofs.Go.Reads
import SdkGen.Proofs.Go.Sieve

/-!
# Brackets outside comments and literals

* `quotedLength`: a string literal between double quotes. It goes on behind the end of a line only
  where a comment stands next.
* `brackets`: the brackets of a text outside its comments and literals.
* `reads_nested`: the tokens and brackets that a rule reads have their brackets nested.
* `nested_of_trees`: so has a text that the grammar takes.
-/

namespace SdkGen.Go

/-- The rest of a string literal between double quotes with its closing quote; `none` where it
does not close. The first argument counts the characters of an escape, or of a comment and the
white space before it, that are still to be passed. -/
def quotedTail : Nat → List Char → Option Nat
  | _, [] => none
  | k + 1, _ :: r => (quotedTail k r).map (1 + ·)
  | 0, c :: r =>
    if c = '"' then some 1
    else if c = '\\' then if escapes r then (quotedTail 1 r).map (1 + ·) else none
    else if c = '\n' then
      let blank := (r.takeWhile isSpace).length
      match commentLength (r.drop blank) with
      | 0 => none
      | n + 1 => (quotedTail (blank + (n + 1)) r).map (1 + ·)
    else (quotedTail 0 r).map (1 + ·)

/-- Length of the string literal between double quotes at the start of a text. -/
def quotedLength : List Char → Nat
  | [] => 0
  | c :: r => if c = '"' then ((quotedTail 0 r).map (1 + ·)).getD 0 else 0

/-- Length of the literal between quotes of any kind at the start of a text. -/
def quoteLength (cs : List Char) : Nat :=
  max (runeLength cs) (max (quotedLength cs) (rawTextLength cs))

/-- The first character of a text, if it is a bracket. -/
def firstBracket : List Char → List Char
  | [] => []
  | c :: _ => if (openings ++ closings).contains c then [c] else []

variable {c : Char} {cs r : List Char} {k n : Nat}

/-! ## String literals -/

/-- Two lengths are added to a third one by one. -/
theorem map_add_map (m n : Nat) (o : Option Nat) :
    (o.map (n + ·)).map (m + ·) = o.map (m + n + ·) := by
  rw [Option.map_map]
  exact congrArg (Option.map · o) (funext fun k => (Nat.add_assoc m n k).symm)

/-- Passing some characters leads to the text behind them. -/
theorem quotedTail_drop (k : Nat) (cs : List Char) :
    quotedTail k cs = (quotedTail 0 (cs.drop k)).map (k + ·) := by
  induction k generalizing cs with
  | zero => simp
  | succ k ih =>
    cases cs with
    | nil => rfl
    | cons c r =>
      rw [quotedTail, ih, List.drop_succ_cons, map_add_map, Nat.add_comm 1 k]

/-- A literal that closes on its line is one. -/
theorem quotedTail_text (h : textTail cs = some n) : quotedTail 0 cs = some n := by
  fun_induction textTail cs generalizing n with
  | case1 => cases h
  | case2 r => exact h
  | case3 c r hescape ih =>
    obtain ⟨m, hm, rfl⟩ := Option.map_eq_some_iff.1 h
    rw [quotedTail, if_neg (by decide), if_pos rfl, if_pos hescape, quotedTail, ih hm,
      Option.map_some, Option.map_some, ← Nat.add_assoc]
  | case4 => cases h
  | case5 => cases h
  | case6 => cases h
  | case7 c r hquote hback hend hline ih =>
    obtain ⟨m, hm, rfl⟩ := Option.map_eq_some_iff.1 h
    have hescape : c ≠ '\\' := by
      rintro rfl
      cases r with
      | nil => exact hend rfl rfl
      | cons d r => exact hback d r rfl rfl
    rw [quotedTail, if_neg hquote, if_neg hescape, if_neg hline, ih hm, Option.map_some]

theorem quotedLength_text (h : textLength cs ≠ 0) : quotedLength cs = textLength cs := by
  cases cs with
  | nil => rfl
  | cons c r =>
    by_cases hc : c = '"'
    · subst hc
      cases htail : textTail r with
      | none => simp [textLength, htail] at h
      | some n => simp [quotedLength, textLength, htail, quotedTail_text htail]
    · exact absurd (textLength_zero hc) h

theorem quotedLength_zero (hc : c ≠ '"') : quotedLength (c :: r) = 0 := if_neg hc

/-! ## The sieve of brackets -/

theorem quoteLength_zero (r : List Char) (hc : c ∉ quotes) : quoteLength (c :: r) = 0 := by
  simp only [quotes, List.mem_cons, List.not_mem_nil, or_false, not_or] at hc
  rw [quoteLength, runeLength_zero hc.2.1, quotedLength_zero hc.1, rawTextLength_zero hc.2.2]
  rfl

theorem quoteLength_rune (h : runeLength cs ≠ 0) : quoteLength cs = runeLength cs := by
  cases cs with
  | nil => rfl
  | cons c r =>
    obtain rfl : c = '\'' := Decidable.not_imp_comm.1 runeLength_zero h
    rw [quoteLength, quotedLength_zero (by decide), rawTextLength_zero (by decide), Nat.max_self,
      Nat.max_zero]

theorem quoteLength_quoted (h : quotedLength cs ≠ 0) : quoteLength cs = quotedLength cs := by
  cases cs with
  | nil => rfl
  | cons c r =>
    obtain rfl : c = '"' := Decidable.not_imp_comm.1 quotedLength_zero h
    rw [quoteLength, runeLength_zero (by decide), rawTextLength_zero (by decide), Nat.max_zero,
      Nat.zero_max]

theorem quoteLength_raw (h : rawTextLength cs ≠ 0) : quoteLength cs = rawTextLength cs := by
  cases cs with
  | nil => rfl
  | cons c r =>
    obtain rfl : c = '\x60' := Decidable.not_imp_comm.1 rawTextLength_zero h
    rw [quoteLength, runeLength_zero (by decide), quotedLength_zero (by decide), Nat.zero_max,
      Nat.zero_max]

theorem quoteLength_text (h : max (textLength cs) (rawTextLength cs) ≠ 0) :
    quoteLength cs = max (textLength cs) (rawTextLength cs) := by
  by_cases htext : textLength cs = 0
  · rw [htext, Nat.zero_max] at h ⊢
    exact quoteLength_raw h
  · have hquoted := quotedLength_text htext
    have hlength := quoteLength_quoted (hquoted ▸ htext)
    have hraw : rawTextLength cs ≤ quoteLength cs := by
      unfold quoteLength
      omega
    omega

theorem firstBracket_silent (r : List Char)
    (hc : c ∉ quotes ++ openings ++ closings ++ ['/']) : firstBracket (c :: r) = [] := by
  refine if_neg ?_
  simp only [List.mem_append, not_or] at hc
  simpa only [List.contains_iff_mem, List.mem_append, not_or] using ⟨hc.1.1.2, hc.1.2⟩

/-- The sieve that keeps the brackets of a text. -/
def bracketSieve : Sieve Char where
  literal := quoteLength
  sign := firstBracket
  literal_zero := quoteLength_zero
  literal_rune := quoteLength_rune
  literal_text := quoteLength_text
  sign_silent := firstBracket_silent

/-- The brackets of a text outside its comments and literals. -/
def brackets (cs : List Char) : List Char := bracketSieve.kept cs

/-! ## What the grammar reads -/

theorem bracket_mem (b : Bracket) :
    b.opening ∈ openings ++ closings ∧ b.closing ∈ openings ++ closings := by
  cases b <;> decide

theorem sign_bracket (hc : c ∈ openings ++ closings) : bracketSieve.sign (c :: r) = [c] :=
  if_pos (List.contains_iff_mem.2 hc)

theorem brackets_cons (hc : c ∈ openings ++ closings) : brackets (c :: r) = c :: brackets r := by
  rw [brackets, bracketSieve.kept_sign hc, sign_bracket hc]
  rfl

example : brackets "f(a[0], \"(\", ']') /* ) */ // \x7d".toList = ['(', '[', ']', ')'] := by decide

theorem readBracket_brackets {ch : Char} {c d : Cursor} {ts : List Tree}
    (hch : ch ∈ openings ++ closings) (h : readBracket ch c = .matched ts d) :
    brackets c.rest = ch :: brackets d.rest := by
  rw [brackets, bracketSieve.kept_bracket hch h, sign_bracket hch]
  rfl

/-- **Between two cursors of a rule the brackets are nested.** -/
theorem reads_nested {c d : Cursor} (h : Reads c d) :
    ∃ us, Nested us ∧ brackets c.rest = us ++ brackets d.rest := by
  induction h with
  | refl c => exact ⟨[], .nil, rfl⟩
  | token h =>
    have hkept := bracketSieve.kept_terminal (fun r _ => rfl) h
    exact ⟨[], .nil, hkept.symm⟩
  | trans _ _ ih ih' =>
    obtain ⟨us, hus, heq⟩ := ih
    obtain ⟨vs, hvs, heq'⟩ := ih'
    exact ⟨us ++ vs, hus.append hvs, by rw [heq, heq', List.append_assoc]⟩
  | @enclosed b _ _ _ _ _ _ hopen _ hclose ih =>
    obtain ⟨us, hus, heq⟩ := ih
    refine ⟨_, hus.enclosed b, ?_⟩
    rw [readBracket_brackets (bracket_mem b).1 hopen, heq,
      readBracket_brackets (bracket_mem b).2 hclose]
    simp only [List.cons_append, List.append_assoc, List.nil_append]

/-- **A text that the grammar takes has its brackets nested.** -/
theorem nested_of_trees {ts : List Tree} (h : trees? cs = some ts) : Nested (brackets cs) := by
  obtain ⟨c, hruns, hrest⟩ := trees?_eq_some.1 h
  obtain ⟨us, hus, heq⟩ := reads_nested (matches_reads (matches_of_runs hruns rfl))
  -- behind the last token there are only blanks
  have hend : brackets c.rest = [] := by
    have hskip := bracketSieve.kept_skipBlanks true c
    rw [hrest] at hskip
    exact hskip.symm
  rw [hend, List.append_nil] at heq
  exact heq ▸ hus

end SdkGen.Go
