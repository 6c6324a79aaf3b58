import Mathlib.Data.List.TakeWhile
import SdkGen.Proofs.Go.Ahead

/-!
# Tokens where they stand

* `skipBlanks_token`: blanks are passed up to the next token.
* `terminal_read`, `bracket_read`: a token is read where its lexeme stands.
* `Stands`: a text starts with a token of a kind.
* `before_here`, `before_later`: such a token stands next behind blanks.
* `stands_name`, `stands_reserved`, `stands_mark`: words and marks by their characters.
-/

namespace SdkGen.Go

@[simp] theorem afterAll_nil (p : Position) : p.afterAll [] = p := rfl

theorem afterAll_cons (p : Position) (c : Char) (u : List Char) :
    p.afterAll (c :: u) = (p.after c).afterAll u := rfl

theorem afterAll_append (p : Position) (u v : List Char) :
    p.afterAll (u ++ v) = (p.afterAll u).afterAll v := List.foldl_append

/-! ## Blanks -/

/-- The first character of a token. -/
def startsToken (c : Char) : Bool := !isSpace c && c ≠ '/'

theorem commentLength_zero {c : Char} (hc : c ≠ '/') (r : List Char) :
    commentLength (c :: r) = 0 := by
  unfold commentLength
  split
  · rename_i h; simp only [List.cons.injEq] at h; exact absurd h.1 hc
  · rename_i h; simp only [List.cons.injEq] at h; exact absurd h.1 hc
  · rfl

/-- White space that ends no line, where lines count. -/
def isPassed (lines : Bool) (bs : List Char) : Bool :=
  bs.all fun b => isSpace b && (lines || b ≠ '\n')

variable {lines : Bool} {bs r : List Char} {c : Char} {p : Position}

theorem passed_none (lines : Bool) : isPassed lines [] = true := rfl

theorem passed_space (lines : Bool) : isPassed lines [' '] = true := by cases lines <;> rfl

theorem blankLength_token (hbs : isPassed lines bs = true) (hc : startsToken c = true) :
    blankLength lines (bs ++ c :: r) = bs.length := by
  unfold blankLength
  induction bs with
  | nil =>
    simp only [startsToken, Bool.and_eq_true, Bool.not_eq_true', decide_eq_true_eq] at hc
    simp [blankLengthFrom, hc.1, commentLength_zero hc.2]
  | cons b bs ih =>
    simp only [isPassed, List.all_cons, Bool.and_eq_true] at hbs
    rw [List.cons_append, blankLengthFrom, if_pos (by simpa using hbs.1), ih hbs.2,
      List.length_cons]
    omega

/-- Blanks stop at a line end where lines count. -/
theorem blankLength_line (hbs : isPassed false bs = true) :
    blankLength false (bs ++ '\n' :: r) = bs.length := by
  unfold blankLength
  induction bs with
  | nil => simp [blankLengthFrom, commentLength_zero (c := '\n') (by decide)]
  | cons b bs ih =>
    simp only [isPassed, List.all_cons, Bool.and_eq_true] at hbs
    rw [List.cons_append, blankLengthFrom, if_pos (by simpa using hbs.1), ih hbs.2,
      List.length_cons]
    omega

theorem advance_append (u r : List Char) (p : Position) :
    Cursor.advance u.length ⟨u ++ r, p⟩ = ⟨r, p.afterAll u⟩ := by
  induction u generalizing p with
  | nil => rfl
  | cons c u ih => exact ih (p.after c)

theorem skipBlanks_token (hbs : isPassed lines bs = true) (hc : startsToken c = true) :
    skipBlanks lines ⟨bs ++ c :: r, p⟩ = ⟨c :: r, p.afterAll bs⟩ := by
  unfold skipBlanks
  rw [blankLength_token hbs hc, advance_append]

theorem skipBlanks_line (hbs : isPassed false bs = true) :
    skipBlanks false ⟨bs ++ '\n' :: r, p⟩ = ⟨'\n' :: r, p.afterAll bs⟩ := by
  unfold skipBlanks
  rw [blankLength_line hbs, advance_append]

theorem isPassed_lines (h : isPassed false bs = true) : isPassed true bs = true := by
  unfold isPassed at h ⊢
  rw [List.all_eq_true] at h ⊢
  intro b hb
  have := h b hb
  simp only [Bool.and_eq_true] at this ⊢
  exact ⟨this.1, by simp⟩

/-! ## Reading a token -/

theorem takeToken_append (u r : List Char) (p : Position) :
    takeToken u.length ⟨u ++ r, p⟩ = .matched [.leaf (String.ofList u) p] ⟨r, p.afterAll u⟩ := by
  unfold takeToken
  rw [advance_append]
  simp

/-- A token is read behind blanks, where its lexeme stands. -/
theorem terminal_read {t : Terminal} {u : List Char} (hbs : isPassed (!t.endsLine) bs = true)
    (hu : t.length (u ++ r) = u.length) (hc : u.head?.any startsToken = true) :
    t.read ⟨bs ++ (u ++ r), p⟩ =
      .matched [.leaf (String.ofList u) (p.afterAll bs)] ⟨r, p.afterAll (bs ++ u)⟩ := by
  cases u with
  | nil => simp at hc
  | cons c u =>
    have hskip := skipBlanks_token (r := u ++ r) (p := p) hbs (by simpa using hc)
    have htake := takeToken_append (c :: u) r (p.afterAll bs)
    unfold Terminal.read
    rw [List.cons_append, hskip]
    simp only [← List.cons_append, hu]
    rw [afterAll_append]
    exact htake

/-- The first line end is a terminator. -/
theorem terminator_read (hbs : isPassed false bs = true) :
    Terminal.terminator.read ⟨bs ++ '\n' :: r, p⟩ =
      .matched [.leaf "\n" (p.afterAll bs)] ⟨r, p.afterAll (bs ++ ['\n'])⟩ := by
  unfold Terminal.read
  rw [show (!Terminal.terminator.endsLine) = false from rfl, skipBlanks_line hbs]
  have htake := takeToken_append ['\n'] r (p.afterAll bs)
  have hlen : Terminal.terminator.length ('\n' :: r) = 1 := by
    simp [Terminal.length, terminatorLength, charLength]
  simp only [hlen]
  rw [afterAll_append]
  exact htake

theorem bracket_read (hbs : isPassed true bs = true) (hc : startsToken c = true) :
    readBracket c ⟨bs ++ c :: r, p⟩ =
      .matched [.leaf (String.ofList [c]) (p.afterAll bs)] ⟨r, p.afterAll (bs ++ [c])⟩ := by
  unfold readBracket
  rw [skipBlanks_token hbs hc]
  have htake := takeToken_append [c] r (p.afterAll bs)
  simp only [List.head?_cons, if_true]
  rw [afterAll_append]
  exact htake

/-! ## What a character rules out -/

/-- The first characters of marks. -/
def markHeads : List Char := marks.flatMap fun m => m.toList.take 1

/-- Whether a token of a class may start with a character. -/
def mayStart (c : Char) : Terminal → Bool
  | .word => c = '_' || Identifier.isStart c
  | .keyword _ => c = '_' || Identifier.isStart c
  | .mark _ => markHeads.contains c
  | .number => c.isDigit || c = '.'
  | .rune => c = '\''
  | .text => c = '"' || c = '\x60'
  | .terminator => c = '\n' || c = ';' || c = '\x00'

theorem longestMark_none {ms : List String} {cs : List Char}
    (h : ∀ m ∈ ms, m.toList.isPrefixOf cs = false) : longestMark ms cs = "" := by
  unfold longestMark
  induction ms with
  | nil => rfl
  | cons m ms ih =>
    rw [List.foldl_cons, h m (by simp), Bool.false_and, if_neg (by simp)]
    exact ih fun m' hm' => h m' (by simp [hm'])

theorem numberLength_zero (hd : c.isDigit = false) (hdot : c ≠ '.') (r : List Char) :
    numberLength (c :: r) = 0 := by
  have hzero : c ≠ '0' := by rintro rfl; revert hd; decide
  have hfirst : ¬ ('1' ≤ c ∧ c ≤ '9') := by
    rintro ⟨h1, h9⟩
    have : c.isDigit = true := by
      simp only [Char.isDigit, Bool.and_eq_true, decide_eq_true_eq]
      exact ⟨Nat.le_trans (by decide : '0'.toNat ≤ '1'.toNat) h1, h9⟩
    rw [this] at hd
    cases hd
  have hbase : ∀ lower upper, baseMark lower upper (c :: r) = 0 := by
    intro lower upper
    unfold baseMark
    split
    · rename_i heq
      exact absurd (List.cons.inj heq).1 hzero
    · rfl
  have hdigits : digitsLength Char.isDigit (c :: r) = 0 := by simp [digitsLength, hd]
  have hinteger : integerLength (c :: r) = 0 := by
    simp [integerLength, hbase, andThen, andMaybe, charLength, hzero, hfirst]
  have hfloat : floatLength (c :: r) = 0 := by
    simp [floatLength, hbase, hdigits, andThen, andMaybe, charLength, hdot]
  simp [numberLength, hinteger, hfloat, hdigits, andThen]

/-- No token of a class stands where it cannot start. -/
theorem length_zero {t : Terminal} (h : mayStart c t = false) (r : List Char) :
    t.length (c :: r) = 0 := by
  have hword : (c = '_' || Identifier.isStart c) = false → wordLength (c :: r) = 0 := by
    intro h
    simp only [wordLength]
    rw [if_neg (by simpa using h)]
  cases t with
  | word => simp [Terminal.length, hword h]
  | keyword w => simp [Terminal.length, hword h]
  | mark wanted =>
    have hnone : longestMark marks (c :: r) = "" := by
      refine longestMark_none fun m hm => ?_
      have hne : ∀ m ∈ marks, m.toList ≠ [] := by decide
      obtain ⟨d, ds, hds⟩ := List.exists_cons_of_ne_nil (hne m hm)
      have hd : d ≠ c := by
        rintro rfl
        have : d ∈ markHeads := List.mem_flatMap.2 ⟨m, hm, by simp [hds]⟩
        simp only [mayStart] at h
        simp [this] at h
      rw [hds, List.isPrefixOf]
      simp [hd]
    simp [Terminal.length, hnone]
  | number =>
    simp only [mayStart, Bool.or_eq_false_iff, decide_eq_false_iff_not] at h
    exact numberLength_zero h.1 h.2 r
  | rune =>
    simp only [mayStart, decide_eq_false_iff_not] at h
    simp [Terminal.length, runeLength, h]
  | text =>
    simp only [mayStart, Bool.or_eq_false_iff, decide_eq_false_iff_not] at h
    simp [Terminal.length, textLength, rawTextLength, h.1, h.2]
  | terminator =>
    simp only [mayStart] at h
    simp only [Terminal.length, terminatorLength, charLength]
    rw [if_neg (by simpa using h)]

/-! ## The next token -/

/-- A text starts with a token of a kind. -/
structure Stands (n : Next) (cs : List Char) : Prop where
  start : cs.head?.any startsToken = true
  length : ∀ t, n.may t = false → t.length cs = 0
  opening : ∀ b, n.mayOpen b = false → cs.head? ≠ some b.opening
  closing : ∀ b, n.mayClose b = false → cs.head? ≠ some b.closing

variable {n : Next} {cs : List Char}

theorem terminal_absent {t : Terminal} (hbs : isPassed (!t.endsLine) bs = true)
    (hcs : cs.head?.any startsToken = true) (h : t.length cs = 0) :
    t.read ⟨bs ++ cs, p⟩ = .absent := by
  cases cs with
  | nil => simp at hcs
  | cons c r =>
    unfold Terminal.read
    rw [skipBlanks_token hbs (by simpa using hcs)]
    simp only [h]

theorem endsLine_of_ne {t : Terminal} (ht : t ≠ .terminator) : (!t.endsLine) = true := by
  cases t <;> first | rfl | exact absurd rfl ht

theorem skipBlanks_stands (h : Stands n cs) (hbs : isPassed true bs = true) :
    (skipBlanks true ⟨bs ++ cs, p⟩).rest = cs := by
  have := h.start
  cases cs with
  | nil => simp at this
  | cons c r => rw [skipBlanks_token hbs (by simpa using this)]

/-- A token behind blanks on the same line. -/
theorem before_here (h : Stands n cs) (hbs : isPassed false bs = true) :
    Before n true ⟨bs ++ cs, p⟩ where
  terminal t hmay ht := by
    refine terminal_absent ?_ h.start (h.length t hmay)
    rw [endsLine_of_ne ht]
    exact isPassed_lines hbs
  terminator hmay _ := terminal_absent hbs h.start (h.length _ hmay)
  opening b hb := by
    rw [skipBlanks_stands h (isPassed_lines hbs)]
    exact h.opening b hb
  closing b hb := by
    rw [skipBlanks_stands h (isPassed_lines hbs)]
    exact h.closing b hb
  sameLine := by
    have := h.start
    cases cs with
    | nil => simp at this
    | cons c r =>
      have hc : startsToken c = true := by simpa using this
      have hne : c ≠ '\n' := by rintro rfl; revert hc; decide
      unfold readSameLine
      rw [skipBlanks_token hbs hc]
      simp [hne]

theorem before_start (h : Stands n cs) : Before n true ⟨cs, p⟩ :=
  before_here h (passed_none false)

/-- A token behind blanks on a later line. -/
theorem before_later {bs' : List Char} (h : Stands n cs) (hbs : isPassed false bs = true)
    (hbs' : isPassed true bs' = true) : Before n false ⟨bs ++ '\n' :: bs' ++ cs, p⟩ := by
  have hall : isPassed true (bs ++ '\n' :: bs') = true := by
    have := isPassed_lines hbs
    unfold isPassed at this hbs' ⊢
    rw [List.all_append, List.all_cons, this, hbs']
    rfl
  refine ⟨fun t hmay ht => ?_, nofun, fun b hb => ?_, fun b hb => ?_, ?_⟩
  · refine terminal_absent ?_ h.start (h.length t hmay)
    rw [endsLine_of_ne ht]
    exact hall
  · rw [skipBlanks_stands h hall]
    exact h.opening b hb
  · rw [skipBlanks_stands h hall]
    exact h.closing b hb
  · unfold readSameLine
    rw [List.append_assoc, List.cons_append, skipBlanks_line hbs]
    rfl

/-- Blanks hold no line end, or they hold a first one. -/
theorem passed_cases (hbs : isPassed true bs = true) : isPassed false bs = true ∨
    ∃ ds es, bs = ds ++ '\n' :: es ∧ isPassed false ds = true ∧ isPassed true es = true := by
  induction bs with
  | nil => exact .inl rfl
  | cons b bs ih =>
    simp only [isPassed, List.all_cons, Bool.and_eq_true] at hbs ih ⊢
    by_cases hb : b = '\n'
    · exact .inr ⟨[], bs, by rw [hb, List.nil_append], rfl, hbs.2⟩
    · rcases ih hbs.2 with h | ⟨ds, es, rfl, hds, hes⟩
      · exact .inl ⟨⟨hbs.1.1, by simpa using hb⟩, h⟩
      · refine .inr ⟨b :: ds, es, rfl, ?_, hes⟩
        rw [List.all_cons, hds, hbs.1.1]
        simpa using hb

/-- A token behind blanks, on the same line or on a later one. -/
theorem before_passed (h : Stands n cs) (hbs : isPassed true bs = true) :
    ∃ onLine, Before n onLine ⟨bs ++ cs, p⟩ := by
  rcases passed_cases hbs with hbs | ⟨ds, es, rfl, hds, hes⟩
  · exact ⟨true, before_here h hbs⟩
  · exact ⟨false, before_later h hds hes⟩

/-- Any token behind a line end. -/
theorem before_lineEnd (hbs : isPassed false bs = true) :
    Before .unknown false ⟨bs ++ '\n' :: r, p⟩ := by
  refine ⟨nofun, nofun, nofun, nofun, ?_⟩
  unfold readSameLine
  rw [skipBlanks_line hbs]
  rfl

/-! ## Kinds of tokens -/

/-- A character that a word starts with. -/
def isWordStart (c : Char) : Bool := c = '_' || Identifier.isStart c

theorem wordStart_ne {c d : Char} (hc : isWordStart c = true) (hd : isWordStart d = false) :
    c ≠ d := by
  rintro rfl
  rw [hc] at hd
  cases hd

theorem wordStart_ge (hc : isWordStart c = true) : 65 ≤ c.toNat := by
  rw [← Nat.not_lt]
  intro hlt
  have hne : c ≠ '_' := by rintro rfl; revert hlt; decide
  have halpha : c.isAlpha = false := by
    rw [← Bool.not_eq_true]
    delta Char.isAlpha Char.isUpper Char.isLower
    simp only [Bool.or_eq_true, Bool.and_eq_true, decide_eq_true_eq]
    rintro (⟨h, -⟩ | ⟨h, -⟩)
    · exact absurd (show 65 ≤ c.toNat from h) (by omega)
    · exact absurd (show 97 ≤ c.toNat from h) (by omega)
  simp only [isWordStart, Identifier.isStart, hne, decide_false, Bool.false_or] at hc
  rw [if_pos (by omega), halpha] at hc
  cases hc

theorem wordStart_not_digit (hc : isWordStart c = true) : c.isDigit = false := by
  have hge := wordStart_ge hc
  rw [← Bool.not_eq_true]
  simp only [Char.isDigit, Bool.and_eq_true, decide_eq_true_eq]
  rintro ⟨-, h⟩
  exact absurd (show c.toNat ≤ 57 from h) (by omega)

theorem wordStart_starts (hc : isWordStart c = true) : startsToken c = true := by
  have hge := wordStart_ge hc
  have hspace : isSpace c = false := by
    rw [← Bool.not_eq_true]
    simp only [isSpace, Bool.or_eq_true, Bool.and_eq_true, decide_eq_true_eq]
    rintro (⟨-, h⟩ | rfl)
    · exact absurd (show c.toNat ≤ 13 from h) (by omega)
    · revert hge; decide
  have := wordStart_ne hc (d := '/') (by decide)
  simp [startsToken, hspace, this]

/-- Only words start with what a word starts with. -/
theorem mayStart_wordStart (hc : isWordStart c = true) {t : Terminal} (h : mayStart c t = true) :
    t = .word ∨ ∃ w, t = .keyword w := by
  cases t with
  | word => exact .inl rfl
  | keyword w => exact .inr ⟨w, rfl⟩
  | mark wanted =>
    have hmarks : (markHeads.all fun d => !isWordStart d) = true := by decide
    simp only [mayStart, List.contains_iff_mem] at h
    have hnot := List.all_eq_true.1 hmarks c h
    rw [hc] at hnot
    cases hnot
  | number =>
    have := wordStart_ne hc (d := '.') (by decide)
    simp [mayStart, wordStart_not_digit hc, this] at h
  | rune =>
    have := wordStart_ne hc (d := '\'') (by decide)
    simp [mayStart, this] at h
  | text =>
    have h1 := wordStart_ne hc (d := '"') (by decide)
    have h2 := wordStart_ne hc (d := '\x60') (by decide)
    simp [mayStart, h1, h2] at h
  | terminator =>
    have h1 := wordStart_ne hc (d := '\n') (by decide)
    have h2 := wordStart_ne hc (d := ';') (by decide)
    have h3 := wordStart_ne hc (d := '\x00') (by decide)
    simp [mayStart, h1, h2, h3] at h

/-- The characters of a word: it starts as words do, and goes on as they do. -/
structure IsWord (w : List Char) : Prop where
  start : w.head?.any isWordStart = true
  tail : ∀ c ∈ w.tail, Identifier.isContinue c = true

instance (w : List Char) : Decidable (IsWord w) :=
  decidable_of_iff (w.head?.any isWordStart = true ∧ w.tail.all Identifier.isContinue = true)
    ⟨fun h => ⟨h.1, List.all_eq_true.1 h.2⟩, fun h => ⟨h.1, List.all_eq_true.2 h.2⟩⟩

/-- A word ends where no character of a word follows. -/
def endsWord (r : List Char) : Bool := !r.head?.any Identifier.isContinue

theorem takeWhile_continue {u : List Char} (hu : ∀ c ∈ u, Identifier.isContinue c = true)
    (hr : endsWord r = true) : (u ++ r).takeWhile Identifier.isContinue = u := by
  induction u with
  | nil =>
    cases r with
    | nil => rfl
    | cons d r =>
      have : Identifier.isContinue d = false := by simpa [endsWord] using hr
      simp [this]
  | cons c u ih =>
    rw [List.cons_append, List.takeWhile_cons, if_pos (hu c (by simp)),
      ih fun d hd => hu d (by simp [hd])]

theorem wordLength_word {w : List Char} (hw : IsWord w) (hr : endsWord r = true) :
    wordLength (w ++ r) = w.length := by
  obtain ⟨hstart, htail⟩ := hw
  cases w with
  | nil => simp at hstart
  | cons c u =>
    have hc : (c = '_' || Identifier.isStart c) = true := by simpa [isWordStart] using hstart
    rw [List.cons_append, wordLength, if_pos (by simpa using hc),
      takeWhile_continue (by simpa using htail) hr, List.length_cons]
    omega

theorem endsWord_dropWhile (r : List Char) : endsWord (r.dropWhile Identifier.isContinue) = true := by
  have hhead := List.head?_dropWhile_not Identifier.isContinue r
  unfold endsWord
  cases h : (r.dropWhile Identifier.isContinue).head? with
  | none => rfl
  | some c =>
    rw [h] at hhead
    simpa using hhead

/-- Where there is a word, it stands. -/
theorem word_of_length (h : wordLength r ≠ 0) :
    ∃ w v, r = w ++ v ∧ IsWord w ∧ endsWord v = true ∧ wordLength r = w.length := by
  cases r with
  | nil => exact absurd rfl h
  | cons c r =>
    rw [wordLength] at h ⊢
    split at h
    · next hc =>
      refine ⟨c :: r.takeWhile Identifier.isContinue, r.dropWhile Identifier.isContinue, ?_,
        ⟨by simpa [isWordStart] using hc, fun d hd => List.mem_takeWhile_imp hd⟩,
        endsWord_dropWhile r, ?_⟩
      · rw [List.cons_append, List.takeWhile_append_dropWhile]
      · rw [if_pos hc, List.length_cons, Nat.add_comm]
    · exact absurd rfl h

/-- The characters of a name that is no keyword. -/
structure IsName (w : List Char) : Prop extends IsWord w where
  notKeyword : String.ofList w ∉ keywords

instance (w : List Char) : Decidable (IsName w) :=
  decidable_of_iff (IsWord w ∧ String.ofList w ∉ keywords)
    ⟨fun h => ⟨h.1, h.2⟩, fun h => ⟨h.toIsWord, h.notKeyword⟩⟩

theorem length_name {w : List Char} (hw : IsName w) (hr : endsWord r = true) :
    Terminal.word.length (w ++ r) = w.length := by
  simp [Terminal.length, wordLength_word hw.toIsWord hr, hw.notKeyword]

theorem length_keyword {k : String} (hk : IsWord k.toList) (hr : endsWord r = true) :
    (Terminal.keyword k).length (k.toList ++ r) = k.toList.length := by
  simp [Terminal.length, wordLength_word hk hr]

theorem length_otherWord {w : List Char} (hlen : wordLength (w ++ r) = w.length) {v : String}
    (hne : w ≠ v.toList) : (Terminal.keyword v).length (w ++ r) = 0 := by
  simp only [Terminal.length]
  rw [hlen, List.take_left, if_neg (by simpa using hne)]

theorem length_reservedWord {w : List Char} (hlen : wordLength (w ++ r) = w.length)
    (hmem : String.ofList w ∈ keywords) : Terminal.word.length (w ++ r) = 0 := by
  simp only [Terminal.length]
  rw [hlen, List.take_left, if_pos (by simpa using hmem)]

theorem stands_name {w : List Char} (hw : IsName w) (hr : endsWord r = true) :
    Stands .name (w ++ r) := by
  obtain ⟨⟨hstart, htail⟩, hkeyword⟩ := hw
  have hlen := wordLength_word ⟨hstart, htail⟩ hr
  cases w with
  | nil => simp at hstart
  | cons c u =>
    have hc : isWordStart c = true := by simpa using hstart
    refine ⟨by simpa using wordStart_starts hc, fun t ht => ?_, fun b _ => ?_, fun b _ => ?_⟩
    · by_cases hmay : mayStart c t = true
      · rcases mayStart_wordStart hc hmay with rfl | ⟨v, rfl⟩
        · cases ht
        · have hv : v ∈ keywords := by simpa [Next.may] using ht
          have hne : c :: u ≠ v.toList := by
            intro heq
            rw [heq, String.ofList_toList] at hkeyword
            exact hkeyword hv
          exact length_otherWord hlen hne
      · exact length_zero (by simpa using hmay) _
    · have : isWordStart b.opening = false := by cases b <;> decide
      simpa using wordStart_ne hc this
    · have : isWordStart b.closing = false := by cases b <;> decide
      simpa using wordStart_ne hc this

theorem stands_reserved {k : String} (hk : IsWord k.toList) (hmem : k ∈ keywords)
    (hr : endsWord r = true) : Stands (.reserved k) (k.toList ++ r) := by
  have hlen := wordLength_word hk hr
  obtain ⟨hstart, htail⟩ := hk
  cases hw : k.toList with
  | nil => simp [hw] at hstart
  | cons c u =>
    rw [hw] at hstart hlen
    have hc : isWordStart c = true := by simpa using hstart
    have hofList : String.ofList (c :: u) = k := by rw [← hw, String.ofList_toList]
    refine ⟨by simpa using wordStart_starts hc, fun t ht => ?_, fun b _ => ?_, fun b _ => ?_⟩
    · by_cases hmay : mayStart c t = true
      · rcases mayStart_wordStart hc hmay with rfl | ⟨v, rfl⟩
        · exact length_reservedWord hlen (hofList ▸ hmem)
        · have hne : c :: u ≠ v.toList := by
            intro heq
            have : k = v := by rw [← hofList, heq, String.ofList_toList]
            simp [Next.may, this] at ht
          exact length_otherWord hlen hne
      · exact length_zero (by simpa using hmay) _
    · have : isWordStart b.opening = false := by cases b <;> decide
      simpa using wordStart_ne hc this
    · have : isWordStart b.closing = false := by cases b <;> decide
      simpa using wordStart_ne hc this

/-! ## Marks and brackets -/

theorem longestMark_comma : longestMark marks (',' :: r) = "," := by simp [longestMark, marks]

theorem longestMark_star (hr : r.head? ≠ some '=') : longestMark marks ('*' :: r) = "*" := by
  cases r with
  | nil => simp [longestMark, marks]
  | cons c r =>
    have : '=' ≠ c := by rintro rfl; exact hr rfl
    simp [longestMark, marks, this]

theorem longestMark_dot (hr : r.head? ≠ some '.') : longestMark marks ('.' :: r) = "." := by
  cases r with
  | nil => simp [longestMark, marks]
  | cons c r =>
    have : '.' ≠ c := by rintro rfl; exact hr rfl
    simp [longestMark, marks, this]

/-- A mark of one character. -/
theorem stands_mark {m : String} (hm : longestMark marks (c :: r) = m) (hc : startsToken c = true)
    (hmark : ∀ t, mayStart c t = true → ∃ wanted, t = .mark wanted)
    (hbracket : ∀ b : Bracket, c ≠ b.opening ∧ c ≠ b.closing) : Stands (.mark m) (c :: r) where
  start := by simpa using hc
  length t ht := by
    by_cases hmay : mayStart c t = true
    · obtain ⟨wanted, rfl⟩ := hmark t hmay
      have hwanted : wanted.contains m = false := ht
      simp only [Terminal.length]
      rw [hm, hwanted]
      rfl
    · exact length_zero (by simpa using hmay) r
  opening b _ := by simpa using (hbracket b).1
  closing b _ := by simpa using (hbracket b).2

theorem stands_comma : Stands (.mark ",") (',' :: r) := by
  refine stands_mark longestMark_comma (by decide) (fun t ht => ?_) (fun b => ?_)
  · cases t <;> first | exact ⟨_, rfl⟩ | exact absurd ht (by simp [mayStart]; try decide)
  · cases b <;> decide

theorem stands_star (hr : r.head? ≠ some '=') : Stands (.mark "*") ('*' :: r) := by
  refine stands_mark (longestMark_star hr) (by decide) (fun t ht => ?_) (fun b => ?_)
  · cases t <;> first | exact ⟨_, rfl⟩ | exact absurd ht (by simp [mayStart]; try decide)
  · cases b <;> decide

theorem stands_opening (b : Bracket) : Stands (.opening b) (b.opening :: r) where
  start := by cases b <;> rfl
  length t _ := length_zero (by cases b <;> cases t <;> rfl) r
  opening b' hb' := by cases b <;> cases b' <;> simp_all [Next.mayOpen, Bracket.opening]
  closing b' _ := by cases b <;> cases b' <;> simp [Bracket.opening, Bracket.closing]

theorem stands_closing (b : Bracket) : Stands (.closing b) (b.closing :: r) where
  start := by cases b <;> rfl
  length t _ := length_zero (by cases b <;> cases t <;> rfl) r
  opening b' _ := by cases b <;> cases b' <;> simp [Bracket.opening, Bracket.closing]
  closing b' hb' := by cases b <;> cases b' <;> simp_all [Next.mayClose, Bracket.closing]

end SdkGen.Go
