import SdkGen.Proofs.Go.Lexeme

/-!
# Scanners that stop at a line end

The lexemes of words, marks and numbers hold no line end, no bracket and no quote, and whether one
stands at the start of a text is decided before the first line end.

* `Scans`: what holds of such a scanner.
* `scans_word`, `scans_number`: the scanners of words and numbers.
* `longestMark_line`: the same for marks.
-/

namespace SdkGen.Go

/-- The quotes that literals start with. -/
def quotes : List Char := ['"', '\'', '\x60']

/-- The opening brackets. -/
def openings : List Char := ['(', '[', '{']

/-- The closing brackets. -/
def closings : List Char := [')', ']', '}']

/-- The characters that stand in no word, mark or number, but for the mark of a division. -/
def specials : List Char := quotes ++ openings ++ closings ++ ['/', '\n']

/-- A character that stands in words, marks and numbers only. -/
def isPlain (c : Char) : Bool := !specials.contains c

/-- Characters of a class are plain where none of the others is of the class. -/
theorem plain_of {p : Char → Bool} (h : (specials.all fun d => !p d) = true) :
    ∀ c, p c = true → isPlain c = true := by
  intro c hc
  rw [isPlain, Bool.not_eq_true', ← Bool.not_eq_true, List.contains_iff_mem]
  intro hmem
  have hnot := List.all_eq_true.1 h c hmem
  rw [hc] at hnot
  cases hnot

/-- A scanner that passes plain characters and looks no further than the first line end. -/
structure Scans (f : List Char → Nat) : Prop where
  plain : ∀ cs : List Char, ∀ c ∈ cs.take (f cs), isPlain c = true
  line : ∀ u w : List Char, f (u ++ '\n' :: w) = f (u ++ ['\n'])

variable {f g : List Char → Nat} {p : Char → Bool} {c : Char} {u w cs : List Char}

theorem not_plain_line : isPlain '\n' = false := by decide

/-- A scanner stays before the first line end. -/
theorem Scans.le (h : Scans f) (u w : List Char) : f (u ++ '\n' :: w) ≤ u.length := by
  rw [← Nat.not_lt]
  intro hlt
  obtain ⟨k, hk⟩ := Nat.exists_eq_add_of_lt hlt
  have hmem : '\n' ∈ (u ++ '\n' :: w).take (f (u ++ '\n' :: w)) := by
    rw [hk, List.take_append, show u.length + k + 1 - u.length = k + 1 by omega]
    simp
  have := h.plain _ _ hmem
  rw [not_plain_line] at this
  cases this

/-! ## Putting scanners together -/

theorem andThen_eq (n : Nat) (g : List Char → Nat) (cs : List Char) :
    andThen n g cs = if n = 0 ∨ g (cs.drop n) = 0 then 0 else n + g (cs.drop n) := by
  unfold andThen
  cases n with
  | zero => simp
  | succ n =>
    simp only [Nat.succ_ne_zero, false_or]
    split <;> simp_all

theorem andMaybe_eq (n : Nat) (g : List Char → Nat) (cs : List Char) :
    andMaybe n g cs = if n = 0 then 0 else n + g (cs.drop n) := by
  unfold andMaybe
  cases n <;> simp

theorem scans_zero : Scans fun _ => 0 := ⟨by simp, by simp⟩

theorem scans_max (hf : Scans f) (hg : Scans g) : Scans fun cs => max (f cs) (g cs) where
  plain cs c hc := by
    rcases Nat.le_total (f cs) (g cs) with h | h
    · exact hg.plain cs c (by rwa [Nat.max_eq_right h] at hc)
    · exact hf.plain cs c (by rwa [Nat.max_eq_left h] at hc)
  line u w := by rw [hf.line, hg.line]

/-- What two scanners pass one after the other. -/
theorem plain_both (hf : Scans f) (hg : Scans g) (cs : List Char) :
    ∀ c ∈ cs.take (f cs + g (cs.drop (f cs))), isPlain c = true := by
  intro c hc
  rw [List.take_add, List.mem_append] at hc
  rcases hc with hc | hc
  · exact hf.plain cs c hc
  · exact hg.plain _ c hc

theorem line_both (hf : Scans f) (hg : Scans g) (u w : List Char) :
    g ((u ++ '\n' :: w).drop (f (u ++ '\n' :: w))) = g ((u ++ ['\n']).drop (f (u ++ ['\n']))) := by
  have hle := hf.le u []
  rw [hf.line, List.drop_append_of_le_length hle, List.drop_append_of_le_length hle, hg.line]

theorem scans_andThen (hf : Scans f) (hg : Scans g) : Scans fun cs => andThen (f cs) g cs where
  plain cs := by
    rw [andThen_eq]
    split
    · simp
    · exact plain_both hf hg cs
  line u w := by
    have := line_both hf hg u w
    rw [andThen_eq, andThen_eq, this, hf.line]

theorem scans_andMaybe (hf : Scans f) (hg : Scans g) : Scans fun cs => andMaybe (f cs) g cs where
  plain cs := by
    rw [andMaybe_eq]
    split
    · simp
    · exact plain_both hf hg cs
  line u w := by
    have := line_both hf hg u w
    rw [andMaybe_eq, andMaybe_eq, this, hf.line]

theorem scans_char (hp : ∀ c, p c = true → isPlain c = true) : Scans (charLength p) where
  plain cs c hc := by
    cases cs with
    | nil => simp at hc
    | cons d cs =>
      simp only [charLength] at hc
      by_cases hd : p d = true
      · obtain rfl : c = d := by simpa [hd] using hc
        exact hp c hd
      · simp [hd] at hc
  line u w := by
    cases u with
    | nil => rfl
    | cons d u => rfl

theorem charLength_here {d : Char} {cs : List Char} (h : charLength (· = d) cs ≠ 0) :
    ∃ r, cs = d :: r := by
  cases cs with
  | nil => exact absurd rfl h
  | cons c r =>
    by_cases hc : c = d
    · exact ⟨r, by rw [hc]⟩
    · simp [charLength, hc] at h

/-! ## Digits -/

theorem line_not (hp : ∀ c, p c = true → isPlain c = true) : p '\n' = false := by
  rw [← Bool.not_eq_true]
  intro h
  have := hp _ h
  rw [not_plain_line] at this
  cases this

theorem scans_joined (hp : ∀ c, p c = true → isPlain c = true) : Scans (joinedDigits p) where
  plain cs := by
    fun_induction joinedDigits p cs with
    | case1 => simp
    | case2 c hc => simpa using hp c hc
    | case3 c hc => simp
    | case4 c d r hc ih =>
      intro e he
      rw [Nat.add_comm, List.take_succ_cons, List.mem_cons] at he
      rcases he with rfl | he
      · exact hp e hc
      · exact ih e he
    | case5 c d r hc h ih =>
      simp only [Bool.and_eq_true, decide_eq_true_eq] at h
      intro e he
      rw [show 2 + joinedDigits p r = joinedDigits p r + 1 + 1 by omega, List.take_succ_cons,
        List.take_succ_cons, List.mem_cons, List.mem_cons] at he
      rcases he with rfl | rfl | he
      · rw [h.1]; decide
      · exact hp e h.2
      · exact ih e he
    | case6 c d r hc h => simp
  line u w := by
    have hline := line_not hp
    have hend : ∀ w, joinedDigits p ('\n' :: w) = 0 := by
      intro w
      cases w <;> simp [joinedDigits, hline]
    fun_induction joinedDigits p u with
    | case1 => rw [List.nil_append, List.nil_append, hend, hend]
    | case2 c hc => simp [joinedDigits, hc, hline, hend]
    | case3 c hc => simp [joinedDigits, hc, hline]
    | case4 c d r hc ih =>
      simp only [List.cons_append] at ih ⊢
      rw [joinedDigits, joinedDigits, if_pos hc, if_pos hc, ih]
    | case5 c d r hc h ih =>
      simp only [List.cons_append]
      rw [joinedDigits, joinedDigits, if_neg hc, if_neg hc, if_pos h, if_pos h, ih]
    | case6 c d r hc h =>
      simp only [List.cons_append]
      rw [joinedDigits, joinedDigits, if_neg hc, if_neg hc, if_neg h, if_neg h]

theorem digitsLength_eq (p : Char → Bool) (cs : List Char) :
    digitsLength p cs = andMaybe (charLength p cs) (joinedDigits p) cs := by
  cases cs with
  | nil => rfl
  | cons c r =>
    rw [andMaybe_eq, digitsLength, charLength]
    by_cases hc : p c = true <;> simp [hc]

theorem scans_digits (hp : ∀ c, p c = true → isPlain c = true) : Scans (digitsLength p) := by
  have := scans_andMaybe (scans_char hp) (scans_joined hp)
  rw [funext (digitsLength_eq p)]
  exact this

theorem plain_digit : ∀ c : Char, c.isDigit = true → isPlain c = true := plain_of (by decide)

theorem plain_hex : ∀ c, isHexDigit c = true → isPlain c = true := plain_of (by decide)

theorem plain_octal : ∀ c, isOctalDigit c = true → isPlain c = true := plain_of (by decide)

theorem plain_binary : ∀ c, isBinaryDigit c = true → isPlain c = true := plain_of (by decide)

theorem markedDigits_eq (hp : p '_' = false) (cs : List Char) : markedDigits p cs =
    max (digitsLength p cs) (andThen (charLength (· = '_') cs) (digitsLength p) cs) := by
  rw [andThen_eq]
  unfold markedDigits
  split
  · rename_i r
    have hnone : digitsLength p ('_' :: r) = 0 := by simp [digitsLength, hp]
    rw [hnone]
    cases h : digitsLength p r <;> simp [charLength, h]
  · rename_i hne
    cases cs with
    | nil => simp [digitsLength, charLength]
    | cons c r =>
      have hc : c ≠ '_' := by
        rintro rfl
        exact hne r rfl
      simp [charLength, hc]

theorem scans_marked (hp : ∀ c, p c = true → isPlain c = true) (hu : p '_' = false) :
    Scans (markedDigits p) := by
  rw [funext (markedDigits_eq hu)]
  exact scans_max (scans_digits hp)
    (scans_andThen (scans_char (plain_of (by decide))) (scans_digits hp))

theorem baseMark_eq (lower upper : Char) (cs : List Char) : baseMark lower upper cs =
    andThen (charLength (· = '0') cs) (charLength fun c => c = lower || c = upper) cs := by
  rw [andThen_eq]
  unfold baseMark
  split
  · rename_i c r
    by_cases hc : c = lower ∨ c = upper <;> simp [charLength, hc]
  · rename_i hne
    cases cs with
    | nil => simp [charLength]
    | cons c r =>
      by_cases hc : c = '0'
      · subst hc
        cases r with
        | nil => simp [charLength]
        | cons d r => exact absurd rfl (hne d r)
      · simp [charLength, hc]

theorem scans_base (lower upper : Char) (hl : isPlain lower = true) (hu : isPlain upper = true) :
    Scans (baseMark lower upper) := by
  rw [funext (baseMark_eq lower upper)]
  refine scans_andThen (scans_char (plain_of (by decide))) (scans_char fun c hc => ?_)
  simp only [Bool.or_eq_true, decide_eq_true_eq] at hc
  rcases hc with rfl | rfl
  · exact hl
  · exact hu

/-! ## Numbers -/

theorem scans_integer : Scans integerLength := by
  have hdigit := scans_marked plain_digit (by decide)
  have hhex := scans_marked plain_hex (by decide)
  have hoctal := scans_marked plain_octal (by decide)
  have hbinary := scans_marked plain_binary (by decide)
  have hzero : Scans (charLength (· = '0')) := scans_char (plain_of (by decide))
  have hfirst : Scans (charLength fun c => '1' ≤ c && c ≤ '9') := scans_char (plain_of (by decide))
  unfold integerLength
  simp only [List.foldl_cons, List.foldl_nil]
  exact scans_max (scans_max (scans_max (scans_max (scans_max (scans_max scans_zero
    (scans_andThen (scans_base _ _ (by decide) (by decide)) hbinary))
    (scans_andThen (scans_base _ _ (by decide) (by decide)) hhex))
    (scans_andThen (scans_base _ _ (by decide) (by decide)) hoctal))
    (scans_andThen hzero hoctal)) hzero) (scans_andMaybe hfirst hdigit)

/-- An exponent, its letter first. -/
theorem exponentLength_eq (lower upper : Char) (cs : List Char) :
    exponentLength lower upper cs =
      andThen (charLength (fun c => c = lower || c = upper) cs) (fun r =>
        max (digitsLength Char.isDigit r)
          (andThen (charLength (fun d => d = '+' || d = '-') r) (digitsLength Char.isDigit) r))
        cs := by
  cases cs with
  | nil => rfl
  | cons c r =>
    rw [andThen_eq, exponentLength]
    by_cases hc : c = lower ∨ c = upper
    · have hsign : ∀ d u, (d = '+' ∨ d = '-') → digitsLength Char.isDigit (d :: u) = 0 := by
        rintro d u (rfl | rfl) <;> rfl
      have hone : charLength (fun c => c = lower || c = upper) (c :: r) = 1 := by
        simp [charLength, hc]
      rw [if_pos (by simpa using hc), hone, andThen_eq]
      cases r with
      | nil => rfl
      | cons d u =>
        by_cases hd : d = '+' ∨ d = '-'
        · have hlen : charLength (fun d => d = '+' || d = '-') (d :: u) = 1 := by
            simp [charLength, hd]
          simp only [hlen, List.drop_succ_cons, List.drop_zero, hsign d u hd]
          cases h : digitsLength Char.isDigit u <;> simp
          omega
        · have hlen : charLength (fun d => d = '+' || d = '-') (d :: u) = 0 := by
            simp [charLength, hd]
          simp only [hlen, List.drop_succ_cons, List.drop_zero]
          cases h : digitsLength Char.isDigit (d :: u) <;> simp
    · simp [charLength, hc]

theorem scans_exponent (lower upper : Char) (hl : isPlain lower = true)
    (hu : isPlain upper = true) :
    Scans (exponentLength lower upper) := by
  have hsign : Scans (charLength fun d => d = '+' || d = '-') := scans_char (plain_of (by decide))
  rw [funext (exponentLength_eq lower upper)]
  refine scans_andThen (scans_char fun c hc => ?_)
    (scans_max (scans_digits plain_digit) (scans_andThen hsign (scans_digits plain_digit)))
  simp only [Bool.or_eq_true, decide_eq_true_eq] at hc
  rcases hc with rfl | rfl
  · exact hl
  · exact hu

theorem scans_float : Scans floatLength := by
  have hdigits := scans_digits plain_digit
  have hpoint : Scans (charLength (· = '.')) := scans_char (plain_of (by decide))
  have hexponent := scans_exponent 'e' 'E' (by decide) (by decide)
  have hbase := scans_base 'x' 'X' (by decide) (by decide)
  have hpower := scans_exponent 'p' 'P' (by decide) (by decide)
  have hhex := scans_marked plain_hex (by decide)
  have hfraction := scans_digits plain_hex
  have hwhole := scans_andThen hbase hhex
  unfold floatLength
  simp only [List.foldl_cons, List.foldl_nil]
  exact scans_max (scans_max (scans_max (scans_max (scans_max (scans_max scans_zero
    (scans_andMaybe (scans_andMaybe (scans_andThen hdigits hpoint) hdigits) hexponent))
    (scans_andThen hdigits hexponent))
    (scans_andMaybe (scans_andThen hpoint hdigits) hexponent))
    (scans_andThen hwhole hpower))
    (scans_andThen (scans_andMaybe (scans_andThen hwhole hpoint) hfraction) hpower))
    (scans_andThen (scans_andThen (scans_andThen hbase hpoint) hfraction) hpower)

theorem scans_number : Scans numberLength := by
  have hplain := scans_max scans_integer scans_float
  have hi : Scans (charLength (· = 'i')) := scans_char (plain_of (by decide))
  unfold numberLength
  exact scans_max hplain (scans_max (scans_andThen hplain hi)
    (scans_andThen (scans_digits plain_digit) hi))

/-! ## Words and marks -/

theorem continue_plain : ∀ c, Identifier.isContinue c = true → isPlain c = true :=
  plain_of (by decide)

theorem wordStart_plain : ∀ c, isWordStart c = true → isPlain c = true := plain_of (by decide)

theorem scans_word : Scans wordLength where
  plain cs := by
    cases cs with
    | nil => simp
    | cons c r =>
      intro d hd
      simp only [wordLength] at hd
      by_cases hc : isWordStart c = true
      · rw [if_pos (by simpa [isWordStart] using hc), Nat.add_comm, List.take_succ_cons,
          List.mem_cons] at hd
        rcases hd with rfl | hd
        · exact wordStart_plain d hc
        · rw [← List.prefix_iff_eq_take.1 (List.takeWhile_prefix _)] at hd
          have hall := List.all_takeWhile (p := Identifier.isContinue) (l := r)
          exact continue_plain d (List.all_eq_true.1 hall d hd)
      · rw [if_neg (by simpa [isWordStart] using hc)] at hd
        simp at hd
  line u w := by
    have hline : Identifier.isContinue '\n' = false := by decide
    cases u with
    | nil => rfl
    | cons c u =>
      simp only [List.cons_append, wordLength]
      congr 3
      induction u with
      | nil => simp [hline]
      | cons d u ih =>
        by_cases hd : Identifier.isContinue d = true <;> simp [hd, ih]

end SdkGen.Go
